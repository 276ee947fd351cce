import Sctl.PlaybookStore

/-!
The three readers of a playbook: the server's, the MCP client's and the web
client's. The first two leave the frontmatter to a library for YAML; the web client
scans it line by line. The values of defaults and enums are those that both
languages can hold.
-/
namespace Sctl.PlaybookParsers
open PlaybookScripts PlaybookStore
open Texts (trimBy isWhitespace)

/-- A value of a default or an enum. A number is an integer, or the double that is nearest to a decimal. -/
inductive Value
  | null
  | bool (b : Bool)
  | int (n : Int)
  | double (decimal : Text)
  | string (s : Text)
deriving DecidableEq

/-- A parameter of the frontmatter. -/
structure Param where
  type : Text
  description : Text
  default : Option Value
  enum : Option (List Value)
deriving DecidableEq

/-- What a parameter has that its frontmatter does not give. -/
def Param.empty : Param := ⟨"string".toList,[],none,none⟩

/-- What all readers give of a document. -/
structure Playbook where
  name : Text
  description : Text
  params : List (Text × Param)
  script : Text
deriving DecidableEq

/-! ### The two readers in Rust -/

/-- The line terminators of JavaScript, which a `.` of a regular expression does not match. -/
def isJsTerminator (c : Char) : Bool := c == '\n' || c == '\r' || c.toNat == 0x2028 || c.toNat == 0x2029

/-- The characters that `trim` removes and `\s` matches. -/
def isJsSpace (c : Char) : Bool := (isWhitespace c && c.toNat != 0x85) || c.toNat == 0xFEFF

def jsTrim : Text → Text := trimBy isJsSpace
def jsTrimStart (text : Text) : Text := text.dropWhile isJsSpace
def jsTrimEnd (text : Text) : Text := (text.reverse.dropWhile isJsSpace).reverse

/-- `\s*(.*)`, at the start of a text. -/
def valueAt (text : Text) : Text := (jsTrimStart text).takeWhile fun c => !isJsTerminator c

/-- `(\w+):\s*(.*)`, at the start of a text. -/
def keyedAt (text : Text) : Option (Text × Text) :=
  let key := text.takeWhile isWordChar
  match text.dropWhile isWordChar with
  | ':' :: rest => if key = [] then none else some (key,valueAt rest)
  | _ => none

def isKeyChar (c : Char) : Bool := isWordChar c || c == '-'

/-- `^  (\w[\w-]*):`, without the value behind it. -/
def paramAt : Text → Option Text
  | ' ' :: ' ' :: c :: rest =>
    if isWordChar c ∧ [':'].isPrefixOf (rest.dropWhile isKeyChar) then some (c :: rest.takeWhile isKeyChar) else none
  | _ => none

/-- `^\s{4}(\w+):\s*(.*)` -/
def fieldAt (text : Text) : Option (Text × Text) :=
  if (text.take 4).length = 4 ∧ (text.take 4).all isJsSpace then keyedAt (text.drop 4) else none

/-- `^\s{6}-\s*(.*)` -/
def itemAt (text : Text) : Option Text :=
  if (text.take 6).length = 6 ∧ (text.take 6).all isJsSpace ∧ ['-'].isPrefixOf (text.drop 6) then some (valueAt (text.drop 7)) else none

def quoted (mark : Char) (s : Text) : Bool := [mark].isPrefixOf s && [mark].isSuffixOf s

/-- `slice(1, -1)` -/
def withoutEnds (s : Text) : Text := s.tail.dropLast

def unquote (s : Text) : Text :=
  let s := jsTrim s
  if quoted '"' s ∨ quoted '\x27' s then withoutEnds s else s

/-- A number of decimal digits. -/
def digits (text : Text) : Option Nat :=
  if text ≠ [] ∧ text.all Char.isDigit then some (text.foldl (fun n c => n * 10 + (c.toNat - '0'.toNat)) 0) else none

/-- `/^-?\d+$/`, with the number it writes. -/
def webInt (text : Text) : Option Int :=
  match text with
  | '-' :: rest => (digits rest).map fun n => -(n : Int)
  | _ => (digits text).map fun n => (n : Int)

/-- `/^-?\d+\.\d+$/` -/
def isWebFloat (text : Text) : Bool :=
  let text := if ['-'].isPrefixOf text then text.tail else text
  match text.dropWhile Char.isDigit with
  | '.' :: fraction => text.takeWhile Char.isDigit != [] && fraction != [] && fraction.all Char.isDigit
  | _ => false

/-- A double holds an integer exactly if its digits but for trailing zeros, in binary, are 53 at most. -/
def isDouble (n : Int) : Bool :=
  n.natAbs < 2 ^ 53 || (n.natAbs < 2 ^ 1024 && n.natAbs % 2 ^ (n.natAbs.log2 - 52) == 0)

def parseYamlValue (s : Text) : Value :=
  let s := jsTrim s
  if s = "true".toList then .bool true
  else if s = "false".toList then .bool false
  else if s = "null".toList ∨ s = ['~'] ∨ s = [] then .null
  else
    match webInt s with
    | some n => if isDouble n then .int n else .double s
    | none => if isWebFloat s then .double s else .string (unquote s)

/-- What the scanner knows while it goes through the lines; `inEnum` is that the current field is an enum. -/
structure Scan where
  name : Text := []
  description : Text := []
  params : List (Text × Param) := []
  currentParam : Option Text := none
  inEnum : Bool := false
  inParams : Bool := false

/-- `params[key] = value`; an object has no property of its own by the name of its prototype. -/
def setParam (key : Text) (value : Param) (params : List (Text × Param)) : List (Text × Param) :=
  if key = "__proto__".toList then params
  else if params.any fun p => p.1 == key then params.map fun p => if p.1 = key then (key,value) else p
  else params ++ [(key,value)]

def modifyParam (key : Text) (f : Param → Param) (params : List (Text × Param)) : List (Text × Param) :=
  params.map fun p => if p.1 = key then (key,f p.2) else p

namespace Scan

def leave (st : Scan) : Scan := { st with currentParam := none, inEnum := false, inParams := false }

def topLevel (st : Scan) (line : Text) : Scan :=
  match keyedAt line with
  | some (key,value) =>
    if key = "name".toList then { st.leave with name := unquote value }
    else if key = "description".toList then { st.leave with description := unquote value }
    else if key = "params".toList then { st.leave with inParams := true }
    else st.leave
  | none => st.leave

def field (st : Scan) (param key value : Text) : Scan :=
  if key = "type".toList then { st with params := modifyParam param (fun p => { p with type := unquote value }) st.params }
  else if key = "description".toList then
    { st with params := modifyParam param (fun p => { p with description := unquote value }) st.params }
  else if key = "default".toList then
    { st with params := modifyParam param (fun p => { p with default := some (parseYamlValue value) }) st.params }
  else if key = "enum".toList then
    let items := if ['['].isPrefixOf value then ((withoutEnds value).splitOn ',').map fun s => parseYamlValue (jsTrim s) else []
    { st with inEnum := true, params := modifyParam param (fun p => { p with enum := some items }) st.params }
  else { st with inEnum := false }

def item (st : Scan) (param value : Text) : Scan :=
  { st with params := modifyParam param (fun p => { p with enum := p.enum.map (· ++ [parseYamlValue value]) }) st.params }

/-- One line, without the blanks at its end. -/
def line (st : Scan) (line : Text) : Scan :=
  if ¬ [' '].isPrefixOf line ∧ ¬ ['\t'].isPrefixOf line then st.topLevel line
  else if !st.inParams then st
  else
    match if "    ".toList.isPrefixOf line then none else paramAt line with
    | some key => { st with currentParam := some key, inEnum := false, params := setParam key .empty st.params }
    | none =>
      match st.currentParam with
      | none => st
      | some param =>
        match fieldAt line with
        | some (key,value) => st.field param key value
        | none =>
          match if st.inEnum then itemAt line else none with
          | some value => st.item param value
          | none => st

end Scan

end Sctl.PlaybookParsers
