import MediaTiers.Integer
import MediaTiers.Yaml.Cursor

/-! The small parts of a document text: names of anchors, tags with their handles, and directives. -/
namespace MediaTiers.Yaml

structure RawTag where
  handle : Option String
  suffix : String
  deriving DecidableEq, Repr

inductive Directive where
  | version (major : Nat)
  | tag (handle family : String)
  | other
  deriving DecidableEq, Repr

def anchorName (c : Cursor) : Except Failure (String × Cursor) :=
  let (name, c) := c.step.spanWhile isNameChar
  if name.isEmpty then .error .notYaml
  else if isBoundary c.peek? || "?:,]\x7d%@\x60".toList.any (c.peek? == some ·) then
    .ok (String.ofList name, c)
  else .error .notYaml

def isUriChar (c : Char) : Bool :=
  c.isAlphanum || "-;/?:@&=+$,_.!~*'()[]%".toList.contains c

def percentBytes : List Char → Option (List UInt8 × List Char)
  | '%' :: a :: b :: rest => do
    let n := (← Integer.digitValue? a) * 16 + (← Integer.digitValue? b)
    let (bytes, rest) ← percentBytes rest
    return (n.toUInt8 :: bytes, rest)
  | '%' :: _ => none
  | cs => some ([], cs)

def unescapeUri : (bound : Nat) → List Char → Option (List Char)
  | _, [] => some []
  | 0, _ => none
  | bound + 1, '%' :: cs => do
    let (bytes, rest) ← percentBytes ('%' :: cs)
    let s ← String.fromUTF8? (ByteArray.mk bytes.toArray)
    return s.toList ++ (← unescapeUri bound rest)
  | bound + 1, c :: cs => return c :: (← unescapeUri bound cs)

def uri (c : Cursor) : Except Failure (String × Cursor) :=
  let (cs, after) := c.spanWhile isUriChar
  match unescapeUri cs.length cs with
  | some (d :: ds) => .ok (String.ofList (d :: ds), after)
  | _ => .error .notYaml

def tagHandle (c : Cursor) : Except Failure (String × Cursor) :=
  if c.peek? != some '!' then .error .notYaml
  else if c.peekAt? 1 == some ' ' then .ok ("!", c.step)
  else
    let (name, after) := c.step.spanWhile isNameChar
    if after.peek? == some '!' then .ok ("!" ++ String.ofList name ++ "!", after.step)
    else .error .notYaml

def endTag (tag : RawTag) (c : Cursor) : Except Failure (RawTag × Cursor) :=
  if endsWord c.peek? then .ok (tag, c) else .error .notYaml

/-- A tag: a full name between angle brackets, a lone mark, or a handle with a suffix. -/
def rawTag (c : Cursor) : Except Failure (RawTag × Cursor) := do
  if c.peekAt? 1 == some '<' then
    let (suffix, c) ← uri (c.forward 2)
    if c.peek? == some '>' then endTag ⟨none, suffix⟩ c.step else throw .notYaml
  else if isBoundary (c.peekAt? 1) then endTag ⟨none, "!"⟩ c.step
  else
    let word := (c.rest.drop 1).takeWhile fun ch => !(ch == ' ' || isLineEnd ch)
    let (handle, c) ← if word.contains '!' then tagHandle c else pure ("!", c.step)
    let (suffix, c) ← uri c
    endTag ⟨some handle, suffix⟩ c

def versionNumber (c : Cursor) : Except Failure (Nat × Cursor) :=
  let (ds, c) := c.spanWhile Char.isDigit
  if ds.isEmpty then .error .notYaml else return ((← Integer.read 10 ds).toNat, c)

def versionValue (c : Cursor) : Except Failure (Directive × Cursor) := do
  let (major, c) ← versionNumber c.skipSpaces
  if c.peek? != some '.' then throw .notYaml
  let (_, c) ← versionNumber c.step
  if endsWord c.peek? then return (.version major, c) else throw .notYaml

def tagValue (c : Cursor) : Except Failure (Directive × Cursor) := do
  let (handle, c) ← tagHandle c.skipSpaces
  if c.peek? != some ' ' then throw .notYaml
  let (family, c) ← uri c.skipSpaces
  if endsWord c.peek? then return (.tag handle family, c) else throw .notYaml

def directive (c : Cursor) : Except Failure (Directive × Cursor) := do
  let (name, c) := c.step.spanWhile isNameChar
  if name.isEmpty || !endsWord c.peek? then throw .notYaml
  let (d, c) ← match String.ofList name with
    | "YAML" => versionValue c
    | "TAG" => tagValue c
    | _ => pure (.other, c.skipWhile (!isLineEnd ·))
  return (d, ← c.endLine)

end MediaTiers.Yaml
