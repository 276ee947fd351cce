import Sctl.PlaybookParsers

/-!
Playbooks of the documented shape: a frontmatter with a name, a description and
parameters, in block YAML, and any body behind it. What the frontmatter means
is said here by the rules of YAML; the parts of it that the web client reads in
another way are named one by one.
-/
namespace Sctl.PlaybookDocuments
open PlaybookScripts PlaybookStore PlaybookParsers

/-! ### Scalars -/

/-- The characters that can stand in one line. -/
def isNb (c : Char) : Bool :=
  c == '\t' || (0x20 ≤ c.toNat && c.toNat ≤ 0x7E) ||
    (0xA0 ≤ c.toNat && c.toNat ≤ 0xFFFD && !([0x2028,0x2029,0xFEFF].contains c.toNat)) || 0x10000 ≤ c.toNat

def isBlank (c : Char) : Bool := c == ' ' || c == '\t'

/-- The characters that cannot start a plain scalar. -/
def indicators : List Char :=
  [',','[',']','{','}','#','&','*','!','|','>','\x27','"','%','@','\x60']

/-- No colon before a blank, and no number sign behind one. -/
def unbroken : Text → Bool
  | c :: d :: rest => !(c == ':' && isBlank d) && !(isBlank c && d == '#') && unbroken (d :: rest)
  | _ => true

/-- A plain scalar of one line. -/
def isPlain (text : Text) : Bool :=
  text.all isNb && unbroken text && !text.getLast?.any (fun c => isBlank c || c == ':') &&
    match text with
    | [] => false
    | c :: rest => !isBlank c && !indicators.contains c && (!(['-','?',':'].contains c) || rest.head?.any fun d => !isBlank d)

/-- A plain scalar within brackets. -/
def isFlowPlain (text : Text) : Bool := isPlain text && text.all fun c => !([',','[',']','{','}'].contains c)

/-- What stands between single quotes, in which a quote is written twice. -/
def undouble : Text → Option Text
  | [] => some []
  | '\x27' :: '\x27' :: rest => (undouble rest).map ('\x27' :: ·)
  | '\x27' :: _ => none
  | c :: rest => (undouble rest).map (c :: ·)

/-- The escapes of one character. -/
def escapes : List (Char × Nat) :=
  [('0',0x00),('a',0x07),('b',0x08),('t',0x09),('\t',0x09),('n',0x0A),('v',0x0B),('f',0x0C),('r',0x0D),('e',0x1B),(' ',0x20),
    ('"',0x22),('/',0x2F),('\\',0x5C),('N',0x85),('_',0xA0),('L',0x2028),('P',0x2029)]

def hexChar (digits : Text) : Option Char :=
  (Texts.readDigits 16 0x110000 0 digits).bind fun n => if n.isValidChar then some (Char.ofNat n) else none

/-- What stands between double quotes. -/
def unescape : Text → Option Text
  | [] => some []
  | '\\' :: 'x' :: a :: b :: rest => (hexChar [a,b]).bind fun c => (unescape rest).map (c :: ·)
  | '\\' :: 'u' :: a :: b :: c :: d :: rest => (hexChar [a,b,c,d]).bind fun c => (unescape rest).map (c :: ·)
  | '\\' :: 'U' :: a :: b :: c :: d :: e :: f :: g :: h :: rest =>
    (hexChar [a,b,c,d,e,f,g,h]).bind fun c => (unescape rest).map (c :: ·)
  | '\\' :: e :: rest =>
    match escapes.find? fun escape => escape.1 == e with
    | some escape => (unescape rest).map (Char.ofNat escape.2 :: ·)
    | none => none
  | ['\\'] => none
  | c :: rest => if c = '"' then none else (unescape rest).map (c :: ·)

inductive Scalar
  | plain (text : Text) (fits : isPlain text = true)
  | single (raw : Text) (fits : raw.all isNb = true) (reads : (undouble raw).isSome = true)
  | double (raw : Text) (fits : raw.all isNb = true) (reads : (unescape raw).isSome = true)

/-- `[-+]?[0-9]+` -/
def decimalInt (text : Text) : Option Int :=
  match text with
  | '+' :: rest => (digits rest).map fun n => (n : Int)
  | _ => webInt text

/-- `0o[0-7]+` and `0x[0-9a-fA-F]+` -/
def radixInt (text : Text) : Option Int :=
  match text with
  | '0' :: 'o' :: c :: rest => ((c :: rest).foldlM (fun (n : Nat) d => (Texts.toDigit 8 d).map (n * 8 + ·)) 0).map fun n => (n : Int)
  | '0' :: 'x' :: c :: rest => ((c :: rest).foldlM (fun (n : Nat) d => (Texts.toDigit 16 d).map (n * 16 + ·)) 0).map fun n => (n : Int)
  | _ => none

def unsigned (text : Text) : Text := if ['-'].isPrefixOf text ∨ ['+'].isPrefixOf text then text.tail else text

def isExponent : Text → Bool
  | [] => true
  | e :: rest => (e == 'e' || e == 'E') && (digits (unsigned rest)).isSome

/-- `[-+]?(\.[0-9]+|[0-9]+(\.[0-9]*)?)([eE][-+]?[0-9]+)?`, `[-+]?\.inf` and `\.nan` -/
def isFloat (text : Text) : Bool :=
  let whole := (unsigned text).takeWhile Char.isDigit
  (match (unsigned text).dropWhile Char.isDigit with
    | '.' :: rest => (whole != [] || rest.takeWhile Char.isDigit != []) && isExponent (rest.dropWhile Char.isDigit)
    | rest => whole != [] && isExponent rest) ||
  [".inf".toList,".Inf".toList,".INF".toList].contains (unsigned text) || [".nan".toList,".NaN".toList,".NAN".toList].contains text

/-- A plain scalar by the core schema of YAML. -/
def coreValue (text : Text) : Value :=
  if ["null".toList,"Null".toList,"NULL".toList,['~'],[]].contains text then .null
  else if ["true".toList,"True".toList,"TRUE".toList].contains text then .bool true
  else if ["false".toList,"False".toList,"FALSE".toList].contains text then .bool false
  else
    match decimalInt text <|> radixInt text with
    | some n => .int n
    | none => if isFloat text then .double text else .string text

namespace Scalar

def text : Scalar → Text
  | plain text _ => text
  | single raw _ _ => '\x27' :: raw ++ ['\x27']
  | double raw _ _ => '"' :: raw ++ ['"']

/-- A scalar where a string is asked for. -/
def string : Scalar → Text
  | plain text _ => text
  | single raw _ _ => (undouble raw).getD []
  | double raw _ _ => (unescape raw).getD []

def value : Scalar → Value
  | plain text _ => coreValue text
  | s => .string s.string

def flow : Scalar → Bool
  | plain text _ => isFlowPlain text
  | _ => true

end Scalar

/-! ### Frontmatter -/

/-- A blank line or a comment line. -/
inductive Filler
  | blank
  | comment (indent : Nat) (text : Text) (fits : text.all isNb = true)

def blanks (n : Nat) : Text := List.replicate n ' '

def Filler.line : Filler → Text
  | blank => []
  | comment indent text _ => blanks indent ++ '#' :: text

/-- A scalar and how many blanks more than one stand in front of it. -/
structure Spaced where
  gap : Nat
  scalar : Scalar

def Spaced.text (s : Spaced) : Text := blanks (s.gap + 1) ++ s.scalar.text

def keyText (indent : Nat) (key : Text) : Text := blanks indent ++ key ++ [':']

/-- An element of an inline enum, with the blanks around it. -/
structure Element where
  before : Nat
  scalar : Scalar
  after : Nat
  flow : scalar.flow = true

def Element.text (e : Element) : Text := blanks e.before ++ e.scalar.text ++ blanks e.after

/-- An element of an enum that is a list, with the lines in front of it. -/
structure Item where
  before : List Filler
  spaced : Spaced

inductive Field
  | type (s : Spaced)
  | description (s : Spaced)
  | default (s : Spaced)
  | inlineEnum (gap : Nat) (elements : List Element)
  | listEnum (indent : Nat) (items : List Item) (deep : 4 ≤ indent) (some_ : items ≠ [])

inductive FieldKey
  | type
  | description
  | default
  | enum
deriving DecidableEq

namespace Field

def key : Field → FieldKey
  | type _ => .type
  | description _ => .description
  | default _ => .default
  | inlineEnum .. | listEnum .. => .enum

def itemLines (indent : Nat) (item : Item) : List Text :=
  item.before.map Filler.line ++ [blanks indent ++ '-' :: item.spaced.text]

def lines : Field → List Text
  | type s => [keyText 4 "type".toList ++ s.text]
  | description s => [keyText 4 "description".toList ++ s.text]
  | default s => [keyText 4 "default".toList ++ s.text]
  | inlineEnum gap elements =>
    [keyText 4 "enum".toList ++ blanks (gap + 1) ++ '[' :: [','].intercalate (elements.map Element.text) ++ [']']]
  | listEnum indent items _ _ => keyText 4 "enum".toList :: items.flatMap (itemLines indent)

/-- What a field says of its parameter; `null` is no default. -/
def give (p : Param) : Field → Param
  | type s => { p with type := s.scalar.string }
  | description s => { p with description := s.scalar.string }
  | default s => { p with default := some s.scalar.value }
  | inlineEnum _ elements => { p with enum := some (elements.map fun e => e.scalar.value) }
  | listEnum _ items _ _ => { p with enum := some (items.map fun item => item.spaced.scalar.value) }

end Field

structure FieldLines where
  before : List Filler
  field : Field

def FieldLines.lines (f : FieldLines) : List Text := f.before.map Filler.line ++ f.field.lines

structure ParamLines where
  before : List Filler
  name : Text
  fields : List FieldLines
  plain : isPlain name = true
  some_ : fields ≠ []
  once : (fields.map fun f => f.field.key).Nodup

namespace ParamLines

def lines (p : ParamLines) : List Text := p.before.map Filler.line ++ keyText 2 p.name :: p.fields.flatMap FieldLines.lines

def param (p : ParamLines) : Param := p.fields.foldl (fun param f => f.field.give param) .empty

end ParamLines

inductive Entry
  | name (s : Spaced)
  | description (s : Spaced)
  | params (ps : List ParamLines) (some_ : ps ≠ []) (distinct : (ps.map ParamLines.name).Nodup)

inductive EntryKey
  | name
  | description
  | params
deriving DecidableEq

namespace Entry

def key : Entry → EntryKey
  | name _ => .name
  | description _ => .description
  | params .. => .params

def lines : Entry → List Text
  | name s => [keyText 0 "name".toList ++ s.text]
  | description s => [keyText 0 "description".toList ++ s.text]
  | params ps _ _ => keyText 0 "params".toList :: ps.flatMap ParamLines.lines

def give (fm : FrontMatter Param) : Entry → FrontMatter Param
  | name s => { fm with name := s.scalar.string }
  | description s => { fm with description := s.scalar.string }
  | params ps _ _ => { fm with params := ps.map fun p => (p.name,p.param) }

end Entry

structure EntryLines where
  before : List Filler
  entry : Entry

def EntryLines.lines (e : EntryLines) : List Text := e.before.map Filler.line ++ e.entry.lines

structure Front where
  entries : List EntryLines
  after : List Filler
  once : (entries.map fun e => e.entry.key).Nodup
  named : .name ∈ entries.map fun e => e.entry.key
  described : .description ∈ entries.map fun e => e.entry.key

namespace Front

def lines (front : Front) : List Text := front.entries.flatMap EntryLines.lines ++ front.after.map Filler.line

/-- What the frontmatter says: every key is there once, and a field that is not there is empty. -/
def meaning (front : Front) : FrontMatter Param := front.entries.foldl (fun fm e => e.entry.give fm) ⟨[],[],[]⟩

end Front

/-- A `null` is no default, in Rust and for both renderers. -/
def given (p : Param) : Param := { p with default := p.default.filter (· ≠ .null) }

/-- A line of the document, with blanks at its end, and its carriage return if it ends with both. -/
def Ends (line written : Text) : Prop := ∃ n, written = line ++ blanks n ∨ written = line ++ blanks n ++ ['\r']

structure Document where
  lead : Text
  front : Front
  lines : List Text
  body : Text
  blank : ∀ c ∈ lead, c ∈ [' ','\t','\n','\r']
  ends : List.Forall₂ Ends ([] :: front.lines) lines

namespace Document

/-- The text that the readers of YAML get. -/
def yaml (d : Document) : Text := ['\n'].intercalate d.lines

def text (d : Document) : Text := d.lead ++ "---".toList ++ d.yaml ++ "\n---".toList ++ d.body

end Document

/-! ### Where the readers go the same way -/

/-- Nothing in the scalar has to be decoded, and the web client does not trim it more than YAML does. -/
def Scalar.Bare : Scalar → Prop
  | plain text _ => (∀ c ∈ text.head?, isJsSpace c = false) ∧ ∀ c ∈ text.getLast?, isJsSpace c = false
  | single raw _ _ => '\x27' ∉ raw
  | double raw _ _ => '\\' ∉ raw

/-- A plain scalar is written as the web client writes words and numbers, and a double holds its integer. -/
structure Common (text : Text) : Prop where
  words : text ∉ ["Null".toList,"NULL".toList,"True".toList,"TRUE".toList,"False".toList,"FALSE".toList]
  numbers : (decimalInt text).isSome ∨ (radixInt text).isSome ∨ isFloat text = true → (webInt text).isSome ∨ isWebFloat text = true
  exact_ : ∀ n, decimalInt text = some n → isDouble n = true

def Scalar.Typed : Scalar → Prop
  | plain text _ => Common text
  | _ => True

/-- The line is an indented comment. -/
def Filler.Inside : Filler → Prop
  | blank => False
  | comment indent _ _ => 0 < indent

/-- The web client reads the field as it is meant. -/
def Field.Kept : Field → Prop
  | type s | description s => s.scalar.Bare
  | default s => s.scalar.Bare ∧ s.scalar.Typed
  | inlineEnum _ elements => elements ≠ [] ∧ ∀ e ∈ elements, e.scalar.Bare ∧ e.scalar.Typed ∧ ',' ∉ e.scalar.text
  | listEnum indent items _ _ =>
    indent = 6 ∧ ∀ item ∈ items, (∀ filler ∈ item.before, filler.Inside) ∧ item.spaced.scalar.Bare ∧ item.spaced.scalar.Typed

structure ParamLines.Kept (p : ParamLines) : Prop where
  key : paramAt (keyText 2 p.name) = some p.name
  own : p.name ≠ "__proto__".toList
  before : ∀ filler ∈ p.before, filler.Inside
  fields : ∀ f ∈ p.fields, (∀ filler ∈ f.before, filler.Inside) ∧ f.field.Kept

def Entry.Kept : Entry → Prop
  | name s | description s => s.scalar.Bare
  | params ps _ _ => ∀ p ∈ ps, p.Kept

/-- The line opens the script, or closes it, when it is trimmed in this way. -/
def opens (trim : Text → Text) (line : Text) : Bool := "```sh".toList.isPrefixOf (trim line) || "```bash".toList.isPrefixOf (trim line)
def closes (trim : Text → Text) (line : Text) : Bool := "```".toList.isPrefixOf (trim line)

/-- Both languages see the same fences, and no line of the script ends with a carriage return. -/
def SameScript : Bool → List Text → Prop
  | _, [] => True
  | false, line :: rest => opens jsTrim line = opens Texts.trim line ∧ SameScript (opens jsTrim line) rest
  | true, line :: rest => closes jsTrim line = closes Texts.trim line ∧
      (closes jsTrim line = false → ¬ ['\r'] <:+ line ∧ SameScript true rest)

instance decidableSameScript : ∀ inside lines, Decidable (SameScript inside lines)
  | false, [] | true, [] => .isTrue trivial
  | false, line :: rest =>
    have := decidableSameScript (opens jsTrim line) rest
    inferInstanceAs (Decidable (opens jsTrim line = opens Texts.trim line ∧ SameScript (opens jsTrim line) rest))
  | true, line :: rest =>
    have := decidableSameScript true rest
    inferInstanceAs (Decidable (closes jsTrim line = closes Texts.trim line ∧
      (closes jsTrim line = false → ¬ ['\r'] <:+ line ∧ SameScript true rest)))

/-- The web client reads the frontmatter as it is meant, the name is a valid one, the
    description is not of blanks only, and the script is read in the same way. -/
structure Document.Kept (d : Document) : Prop where
  entries : ∀ e ∈ d.front.entries, e.entry.Kept
  name : d.front.meaning.name.all isNameChar = true
  description : Texts.trim d.front.meaning.description = [] → d.front.meaning.description = []
  script : SameScript false (d.body.splitOn '\n')

end Sctl.PlaybookDocuments
