import MediaTiers.Stylesheet.Exchange
import MediaTiers.Transform

/-! The demonstration: a sheet with three breakpoints and media rules that refer to them, under two
configurations, with its media queries and the sheet after the run. -/
namespace MediaTiers

def exampleSheet (asVariables : Bool) : Stylesheet :=
  let named (name : String) :=
    (if asVariables then "var-breakpoint-" else "breakpoint-") ++ name
  [rule ":root" [declaration (named "palm") "max 340px", declaration (named "tab") "max 700px",
      declaration (named "desk") "min 1000px"],
    rule ".palm" [declaration "display" "none"],
    media "palm" [rule ".palm" [declaration "display" "block"]],
    media "tab-and-down" [rule ".tab-and-down" [declaration "display" "block"]],
    media "desk" [rule "body > aside" [declaration "width" "33%"]]]

namespace Demo

def bar (c : Char) : String :=
  String.ofList (List.replicate 80 c)

def about (label : String) (config : Config) : List String :=
  let shown : Except Failure (List String) := do
    let (sheet, report) ← ((exampleSheet false).transform config).2
    return ["Resolved media queries:", ← mediaMapYaml report.mediaMap,
      s!"Rewrote {report.changed} of {report.mediaRules.length} media rules", "",
      ← Stylesheet.toYaml sheet]
  ["\n" ++ label ++ ":", bar '-'] ++ match shown with
    | .ok lines => lines
    | .error failure => [failure.message]

def entries : List String :=
  [bar '=', "BREAKPOINTS DEMO", bar '=']
    ++ about "DEFAULT" .default
    ++ about "ONLY SCREEN" { Config.default with useOnly := true }
    ++ [bar '=']

def text : String :=
  String.join (entries.map (· ++ "\n"))

end Demo
end MediaTiers
