import MediaTiers.Config.Basic
import MediaTiers.Yaml.Printer

/-! Configurations as documents and as files. -/
namespace MediaTiers.Config

def write (format : DocumentFormat) (c : Config) : Except Failure String :=
  format.write (.record [("breakpoints", c.toValue)])

/-- The part of a document that holds the configuration: what stands under the heading, or the whole
of it. -/
def body (v : Value) : Value :=
  match v.bare with
  | .map entries => (Value.lookup? "breakpoints" entries).getD v
  | _ => v

def read (format : DocumentFormat) (text : String) : Except Failure Config := do
  ofValue (body (← format.read text))

def toYaml (c : Config) : Except Failure String :=
  write Yaml.format c

def ofYaml (text : String) : Except Failure Config :=
  read Yaml.format text

def unifyLines : List Char → List Char
  | [] => []
  | '\r' :: '\n' :: cs => '\n' :: unifyLines cs
  | '\r' :: cs => '\n' :: unifyLines cs
  | c :: cs => c :: unifyLines cs

def decode (bytes : List UInt8) : Except Failure String :=
  match String.fromUTF8? (ByteArray.mk bytes.toArray) with
  | some s => .ok (String.ofList (unifyLines s.toList))
  | none => .error .notUtf8

/-- Reads a configuration from the bytes of a file, if there is one. A file that is no document is
refused as a configuration. -/
def load (format : DocumentFormat) (path : String) (file : Option (List UInt8)) : Except Failure Config :=
  match file with
  | none => .error (.missingFile path)
  | some bytes => do
    let text ← decode bytes
    match read format text with
    | .error .notYaml => throw (.config (.invalidYaml path))
    | outcome => outcome

end MediaTiers.Config
