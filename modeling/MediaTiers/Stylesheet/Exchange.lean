import MediaTiers.Json.Printer
import MediaTiers.Json.Reader
import MediaTiers.OrderedMap
import MediaTiers.Stylesheet.Document
import MediaTiers.Yaml.Printer

/-! Stylesheets and media maps as texts. -/
namespace MediaTiers

def Json.format : DocumentFormat :=
  ⟨Json.read, Json.write⟩

namespace Stylesheet

def write (format : DocumentFormat) (sheet : Stylesheet) : Except Failure String :=
  format.write (toValue sheet)

def read (format : DocumentFormat) (text : String) : Except Failure Stylesheet := do
  ofValue (← format.read text)

def toJson (sheet : Stylesheet) : Except Failure String :=
  write Json.format sheet

def ofJson (text : String) : Except Failure Stylesheet :=
  read Json.format text

def toYaml (sheet : Stylesheet) : Except Failure String :=
  write Yaml.format sheet

def ofYaml (text : String) : Except Failure Stylesheet :=
  read Yaml.format text

end Stylesheet

def mediaMapYaml (m : OrderedMap String) : Except Failure String :=
  Yaml.write (.record (m.map fun e => (e.1, .text e.2)))

end MediaTiers
