import Mathlib.Data.List.Basic
import Sctl.BandCodec
import Sctl.Fields
import Sctl.Texts

/-!
Cells as the modem reports them (`server/src/lte.rs`): the serving cell and the
neighbour cells of `AT+QENG`. A report is a line of fields; a number that the modem does
not know is a dash. Floating-point numbers and their parser are parameters.
-/
namespace Sctl.CellReports
open Texts
abbrev Text := List Char

/-! ### Parsers -/

def decodeBandwidth (code : Text) : Option Text :=
  match code with
  | ['0'] => some "1.4".toList
  | ['1'] => some "3".toList
  | ['2'] => some "5".toList
  | ['3'] => some "10".toList
  | ['4'] => some "15".toList
  | ['5'] => some "20".toList
  | _ => none

/-- The id of the eNodeB and the sector. -/
def decomposeCellId (hexStr : Text) : Option Nat × Option Nat :=
  match fromStrRadix 16 (2 ^ 32) hexStr with
  | none => (none,none)
  | some val => (some (val >>> 8),some (val &&& 0xFF))

structure QengData (F : Type) where
  rsrp : Option Int := none
  rsrq : Option Int := none
  sinr : Option F := none
  cellId : Option Text := none
  state : Option Text := none
  duplex : Option Text := none
  plmn : Option Text := none
  pci : Option Nat := none
  earfcn : Option Nat := none
  freqBand : Option Nat := none
  ulBw : Option Text := none
  dlBw : Option Text := none
  tac : Option Text := none
  enodebId : Option Nat := none
  sector : Option Nat := none

def parseStr (parts : List Text) (idx : Nat) : Option Text :=
  parts[idx]?.bind fun s =>
    let s := trimMatches '"' s
    if s = [] ∨ s = ['-'] then none else some s

def parseI32 (s : Text) : Option Int := parseSigned (2 ^ 31) s

def parseU16 (s : Text) : Option Nat := fromStrRadix 10 (2 ^ 16) s

def parseU32 (s : Text) : Option Nat := fromStrRadix 10 (2 ^ 32) s

structure NeighborCell (F : Type) where
  earfcn : Nat
  pci : Nat
  rsrp : Option Int
  rsrq : Option Int
  rssi : Option Int
  sinr : Option F
  cellType : Text

/-- A line about a serving cell in LTE. -/
def servesLte (l : Text) : Bool := contains l "+QENG:".toList && contains l "LTE".toList

/-- A line about a neighbour cell. -/
def tellsNeighbour (l : Text) : Bool := contains l "+QENG:".toList && contains l "neighbourcell".toList

def cellTypeOf (data : Text) : Option Text :=
  if contains data "neighbourcell intra".toList then some "intra".toList
  else if contains data "neighbourcell inter".toList then some "inter".toList
  else none

section
variable {F : Type} (parseF64 : Text → Option F)

/-- The serving cell, from the parts of its line. -/
def qengOf (parts : List Text) : QengData F :=
  if parts.length < 17 then {}
  else
    let cellId := parseStr parts 6
    let decomposed := (cellId.map decomposeCellId).getD (none,none)
    { rsrp := parts[13]?.bind parseI32
      rsrq := parts[14]?.bind parseI32
      sinr := parts[16]?.bind parseF64
      cellId := cellId
      state := parseStr parts 1
      duplex := parseStr parts 3
      plmn := (parseStr parts 4).bind fun m => (parseStr parts 5).map fun n => m ++ n
      pci := parts[7]?.bind parseU16
      earfcn := parts[8]?.bind parseU32
      freqBand := parts[9]?.bind parseU16
      ulBw := parts[10]?.bind decodeBandwidth
      dlBw := parts[11]?.bind decodeBandwidth
      tac := parseStr parts 12
      enodebId := decomposed.1
      sector := decomposed.2 }

def parseQeng (response : Text) : QengData F :=
  match (lines response).find? servesLte with
  | none => {}
  | some line =>
    match Fields.data line with
    | none => {}
    | some data => qengOf parseF64 ((data.splitOn ',').map trim)

/-- A neighbour cell, from the parts of its line. -/
def neighbourAt (cellType : Text) (parts : List Text) : Option (NeighborCell F) :=
  if parts.length < 6 then none
  else
    match parts[2]?.bind parseU32, parts[3]?.bind parseU16 with
    | some earfcn, some pci =>
      some {
        earfcn := earfcn
        pci := pci
        rsrq := parts[4]?.bind parseI32
        rsrp := parts[5]?.bind parseI32
        rssi := parts[6]?.bind parseI32
        sinr := parts[7]?.bind parseF64
        cellType := cellType }
    | _, _ => none

/-- What a line says about a neighbour cell. -/
def neighbourOf (line : Text) : Option (NeighborCell F) :=
  if tellsNeighbour line then
    (Fields.data line).bind fun data =>
      (cellTypeOf data).bind fun cellType => neighbourAt parseF64 cellType ((data.splitOn ',').map fun s => trimMatches '"' (trim s))
  else none

def parseNeighbour (response : Text) : List (NeighborCell F) := (lines response).filterMap (neighbourOf parseF64)

end

/-! ### Fields -/

theorem isField_solid {text : Text} (some_ : text ≠ []) (all : ∀ c ∈ text, c ≠ ':' ∧ c ≠ ',' ∧ isWhitespace c = false) :
    Fields.isField text = true := by
  refine Fields.isField_iff.mpr ⟨fun c member => ?_,Fields.dark_iff.mpr ⟨?_,?_⟩⟩
  · obtain ⟨colon,comma,black⟩ := all c member
    exact ⟨colon,comma,by rintro rfl; exact absurd black (by decide)⟩
  · exact ⟨text.head some_,List.head?_eq_some_head some_,(all _ (List.head_mem some_)).2.2⟩
  · exact ⟨text.getLast some_,List.getLast?_eq_some_getLast some_,(all _ (List.getLast_mem some_)).2.2⟩

theorem solid_digit {c : Char} (digit : c.isDigit = true) : c ≠ ':' ∧ c ≠ ',' ∧ isWhitespace c = false :=
  ⟨by rintro rfl; exact absurd digit (by decide),by rintro rfl; exact absurd digit (by decide),isWhitespace_digit digit⟩

theorem isField_decimal (n : Nat) : Fields.isField (Nat.toDigits 10 n) = true :=
  isField_solid Nat.toDigits_ne_nil fun _ member => solid_digit (Nat.isDigit_of_mem_toDigits (by decide) (by decide) member)

theorem isField_upperHex (n : Nat) : Fields.isField (upperHex n) = true := by
  refine isField_solid (by simp [upperHex]) fun c member => ?_
  have digit : toDigit 16 c ≠ none := BandCodec.toDigit_of_read (readDigits_upperHex (Nat.lt_succ_self n)) c member
  exact ⟨by rintro rfl; exact absurd digit (by decide),by rintro rfl; exact absurd digit (by decide),
    BandCodec.isWhitespace_digit16 digit⟩

theorem isField_int (n : Int) : Fields.isField (toString n).toList = true := by
  cases n with
  | ofNat n =>
    rw [toString_ofNat]
    exact isField_decimal n
  | negSucc n =>
    rw [toString_negSucc]
    refine isField_solid (List.cons_ne_nil _ _) fun c member => ?_
    rcases List.mem_cons.mp member with rfl | digit
    · decide
    · exact solid_digit (Nat.isDigit_of_mem_toDigits (by decide) (by decide) digit)

/-- A text in quotes. -/
def quoted (text : Text) : Text := '"' :: (text ++ ['"'])

theorem isField_quoted {text : Text} (all : ∀ c ∈ text, c ≠ ':' ∧ c ≠ ',' ∧ c ≠ '\n') : Fields.isField (quoted text) = true := by
  refine Fields.isField_iff.mpr ⟨fun c member => ?_,Fields.dark_iff.mpr ⟨⟨'"',rfl,by decide⟩,⟨'"',?_,by decide⟩⟩⟩
  swap
  · rw [quoted,← List.cons_append]
    exact List.getLast?_concat
  rcases List.mem_cons.mp member with rfl | member
  · decide
  · rcases List.mem_append.mp member with inside | last
    · exact all c inside
    · obtain rfl := List.mem_singleton.mp last
      decide

theorem trimMatches_quoted {text : Text} (free : '"' ∉ text) : trimMatches '"' (quoted text) = text := by
  have front : ∀ rest : Text, '"' ∉ rest → ('"' :: rest).dropWhile (· == '"') = rest := by
    intro rest none_
    rw [List.dropWhile_cons_of_pos (by decide)]
    cases rest with
    | nil => rfl
    | cons c rest =>
      have other : c ≠ '"' := by
        rintro rfl
        exact none_ List.mem_cons_self
      exact List.dropWhile_cons_of_neg (by simpa using other)
  cases text with
  | nil => decide
  | cons c rest =>
    have other : c ≠ '"' := by
      rintro rfl
      exact free List.mem_cons_self
    have opened : (quoted (c :: rest)).dropWhile (· == '"') = c :: rest ++ ['"'] := by
      rw [quoted,List.dropWhile_cons_of_pos (by decide)]
      exact List.dropWhile_cons_of_neg (by simpa using other)
    rw [trimMatches,trimBy,opened,List.reverse_append,List.reverse_singleton,List.singleton_append,
      front _ (fun member => free (List.mem_reverse.mp member)),List.reverse_reverse]

theorem trimMatches_other {text : Text} (free : '"' ∉ text) : trimMatches '"' text = text :=
  trimBy_eq_self fun c member => by
    have other : c ≠ '"' := by
      rintro rfl
      exact free member
    simpa using other

/-! ### The serving cell -/

/-- A word that the modem shows, in quotes or not. -/
structure Word where
  text : Text
  plain : ∀ c ∈ text, c ≠ ':' ∧ c ≠ ',' ∧ isWhitespace c = false
  unquoted : '"' ∉ text
  known : text ≠ [] ∧ text ≠ ['-']

theorem Word.isField (w : Word) : Fields.isField w.text = true := isField_solid w.known.1 w.plain

theorem Word.isField_quoted (w : Word) : Fields.isField (quoted w.text) = true :=
  CellReports.isField_quoted (Fields.isField_iff.mp w.isField).1

/-- What the modem knows of its serving cell. -/
structure ServingCell where
  state : Word
  duplex : Word
  mcc : Word
  mnc : Word
  cellId : Nat
  pci : Nat
  earfcn : Nat
  band : Nat
  /-- The codes of the bandwidths, up and down. -/
  ul : Nat
  dl : Nat
  tac : Word
  rsrp : Int
  rsrq : Int
  rssi : Int
  sinr : Text
  srxlev : Text
  small : cellId < 2 ^ 32 ∧ pci < 2 ^ 16 ∧ earfcn < 2 ^ 32 ∧ band < 2 ^ 16
  codes : ul < 6 ∧ dl < 6
  ranges : ∀ n ∈ [rsrp,rsrq], -2 ^ 31 ≤ n ∧ n < 2 ^ 31
  fields : Fields.isField sinr = true ∧ Fields.isField srxlev = true

def qeng : Text := "+QENG".toList

/-- The bandwidths by code, in MHz. -/
def bandwidths : List Text := ["1.4".toList,"3".toList,"5".toList,"10".toList,"15".toList,"20".toList]

namespace ServingCell

def parts (cell : ServingCell) : List Text :=
  [quoted "servingcell".toList,quoted cell.state.text,quoted "LTE".toList,quoted cell.duplex.text,cell.mcc.text,cell.mnc.text,
    upperHex cell.cellId,Nat.toDigits 10 cell.pci,Nat.toDigits 10 cell.earfcn,Nat.toDigits 10 cell.band,Nat.toDigits 10 cell.ul,
    Nat.toDigits 10 cell.dl,cell.tac.text,(toString cell.rsrp).toList,(toString cell.rsrq).toList,(toString cell.rssi).toList,
    cell.sinr,cell.srxlev]

def line (cell : ServingCell) : Text := Fields.line qeng cell.parts

/-- What is to be read of the cell. -/
def data {F : Type} (parseF64 : Text → Option F) (cell : ServingCell) : QengData F where
  rsrp := some cell.rsrp
  rsrq := some cell.rsrq
  sinr := parseF64 cell.sinr
  cellId := some (upperHex cell.cellId)
  state := some cell.state.text
  duplex := some cell.duplex.text
  plmn := some (cell.mcc.text ++ cell.mnc.text)
  pci := some cell.pci
  earfcn := some cell.earfcn
  freqBand := some cell.band
  ulBw := bandwidths[cell.ul]?
  dlBw := bandwidths[cell.dl]?
  tac := some cell.tac.text
  enodebId := some (cell.cellId / 256)
  sector := some (cell.cellId % 256)

end ServingCell

theorem decodeBandwidth_code : ∀ code < 6, decodeBandwidth (Nat.toDigits 10 code) = bandwidths[code]? := by decide

theorem parseStr_quoted {parts : List Text} {idx : Nat} (w : Word) (here : parts[idx]? = some (quoted w.text)) :
    parseStr parts idx = some w.text := by
  rw [parseStr,here,Option.bind_some,trimMatches_quoted w.unquoted]
  exact if_neg (not_or.mpr w.known)

theorem parseStr_bare {parts : List Text} {idx : Nat} (w : Word) (here : parts[idx]? = some w.text) : parseStr parts idx = some w.text := by
  rw [parseStr,here,Option.bind_some,trimMatches_other w.unquoted]
  exact if_neg (not_or.mpr w.known)

theorem parseStr_upperHex {parts : List Text} {idx n : Nat} (here : parts[idx]? = some (upperHex n)) :
    parseStr parts idx = some (upperHex n) := by
  have free : ∀ c, toDigit 16 c = none → c ∉ upperHex n := fun c => BandCodec.not_mem_upperHex
  rw [parseStr,here,Option.bind_some,trimMatches_other (free '"' (by decide))]
  refine if_neg (not_or.mpr ⟨by simp [upperHex],fun dash => free '-' (by decide) ?_⟩)
  rw [dash]
  exact List.mem_cons_self

theorem fromStrRadix_decimal {n limit : Nat} (small : n < limit) : fromStrRadix 10 limit (Nat.toDigits 10 n) = some n :=
  fromStrRadix_of_readDigits Nat.toDigits_ne_nil (readDigits_decimal small)

theorem decomposeCellId_upperHex {n : Nat} (small : n < 2 ^ 32) : decomposeCellId (upperHex n) = (some (n / 256),some (n % 256)) := by
  have high : n >>> 8 = n / 256 := Nat.shiftRight_eq_div_pow n 8
  have low : n &&& 0xFF = n % 256 := Nat.and_two_pow_sub_one_eq_mod n 8
  rw [decomposeCellId,fromStrRadix_upperHex small]
  simp only [high,low]

variable {F : Type} {parseF64 : Text → Option F}

theorem ServingCell.parts_fields (cell : ServingCell) : ∀ field ∈ cell.parts, Fields.isField field = true := by
  intro field member
  simp only [ServingCell.parts,List.mem_cons,List.not_mem_nil,or_false] at member
  rcases member with rfl | rfl | rfl | rfl | rfl | rfl | rfl | rfl | rfl | rfl | rfl | rfl | rfl | rfl | rfl | rfl | rfl | rfl
  · decide
  · exact cell.state.isField_quoted
  · decide
  · exact cell.duplex.isField_quoted
  · exact cell.mcc.isField
  · exact cell.mnc.isField
  · exact isField_upperHex _
  · exact isField_decimal _
  · exact isField_decimal _
  · exact isField_decimal _
  · exact isField_decimal _
  · exact isField_decimal _
  · exact cell.tac.isField
  · exact isField_int _
  · exact isField_int _
  · exact isField_int _
  · exact cell.fields.1
  · exact cell.fields.2

theorem ServingCell.qengOf_parts (cell : ServingCell) : qengOf parseF64 cell.parts = cell.data parseF64 := by
  obtain ⟨id,pci,earfcn,band⟩ := cell.small
  have rsrp := cell.ranges cell.rsrp List.mem_cons_self
  have rsrq := cell.ranges cell.rsrq (List.mem_cons_of_mem _ List.mem_cons_self)
  have hex : parseStr cell.parts 6 = some (upperHex cell.cellId) := parseStr_upperHex rfl
  have enough : ¬ cell.parts.length < 17 := by
    show ¬ 18 < 17
    decide
  have rsrp' : cell.parts[13]?.bind parseI32 = some cell.rsrp := parseSigned_toString rsrp.1 rsrp.2
  have rsrq' : cell.parts[14]?.bind parseI32 = some cell.rsrq := parseSigned_toString rsrq.1 rsrq.2
  have pci' : cell.parts[7]?.bind parseU16 = some cell.pci := fromStrRadix_decimal pci
  have earfcn' : cell.parts[8]?.bind parseU32 = some cell.earfcn := fromStrRadix_decimal earfcn
  have band' : cell.parts[9]?.bind parseU16 = some cell.band := fromStrRadix_decimal band
  rw [qengOf,if_neg enough,hex,parseStr_quoted cell.state rfl,parseStr_quoted cell.duplex rfl,parseStr_bare cell.mcc rfl,
    parseStr_bare cell.mnc rfl,parseStr_bare cell.tac rfl,rsrp',rsrq',pci',earfcn',band']
  dsimp only
  rw [Option.map_some,Option.getD_some,decomposeCellId_upperHex id]
  exact congrArg₂ (fun ul dl : Option Text => { cell.data parseF64 with ulBw := ul, dlBw := dl })
    (decodeBandwidth_code cell.ul cell.codes.1) (decodeBandwidth_code cell.dl cell.codes.2)

theorem ServingCell.servesLte_line (cell : ServingCell) : servesLte cell.line = true := by
  rw [servesLte,Bool.and_eq_true,contains_iff,contains_iff]
  have technology : quoted "LTE".toList ∈ cell.parts := by simp [ServingCell.parts]
  constructor
  · exact ⟨[],' ' :: Fields.body cell.parts,by simp [ServingCell.line,Fields.line,qeng]⟩
  · exact List.IsInfix.trans ⟨['"'],['"'],rfl⟩ (Fields.infix_line technology)

/-- The first line about a serving cell is read as it is meant, whatever stands around it. -/
theorem serving_cell_read (parseF64 : Text → Option F) (cell : ServingCell) {response : Text} {before after : List Text}
    (lines : Texts.lines response = before ++ cell.line :: after) (earlier : ∀ l ∈ before, servesLte l = false) :
    parseQeng parseF64 response = cell.data parseF64 := by
  have found : (Texts.lines response).find? servesLte = some cell.line := by
    rw [lines,List.find?_append,List.find?_eq_none.mpr (fun l member => by rw [earlier l member]; decide),Option.none_or]
    simp only [List.find?_cons,cell.servesLte_line]
  have parts : (Fields.body cell.parts).splitOn ',' = cell.parts := Fields.split_body cell.parts_fields (List.cons_ne_nil _ _)
  unfold parseQeng
  rw [found]
  dsimp only
  rw [ServingCell.line,Fields.data_line cell.parts_fields (List.cons_ne_nil _ _) (by decide)]
  dsimp only
  rw [parts,Fields.trim_fields cell.parts_fields,cell.qengOf_parts]

/-- A cell that is camped on, in idle. -/
def idleCell : ServingCell where
  state := ⟨"NOCONN".toList,forall_of_all (by decide),by decide,by decide⟩
  duplex := ⟨"FDD".toList,forall_of_all (by decide),by decide,by decide⟩
  mcc := ⟨"302".toList,forall_of_all (by decide),by decide,by decide⟩
  mnc := ⟨"720".toList,forall_of_all (by decide),by decide,by decide⟩
  cellId := 0x101A901
  pci := 266
  earfcn := 2050
  band := 4
  ul := 5
  dl := 5
  tac := ⟨"61E4".toList,forall_of_all (by decide),by decide,by decide⟩
  rsrp := -102
  rsrq := -11
  rssi := -70
  sinr := "10".toList
  srxlev := "-".toList
  small := by decide
  codes := by decide
  ranges := by decide
  fields := by decide

/-- With a parser that keeps the text of a number. -/
theorem serving_cell_read_idle :
    parseQeng some ("\r\n".toList ++ idleCell.line ++ "\r\n\r\nOK\r\n".toList) = idleCell.data some := by
  have lines : Texts.lines ("\r\n".toList ++ idleCell.line ++ "\r\n\r\nOK\r\n".toList) =
      [[]] ++ idleCell.line :: [[],"OK".toList] := by decide
  exact serving_cell_read some idleCell lines (by decide)

/-! ### The neighbour cells -/

/-- A number, or a dash where there is none. -/
def shown : Option Int → Text
  | some n => (toString n).toList
  | none => ['-']

/-- What the modem knows of a neighbour cell. -/
structure Neighbour where
  intra : Bool
  earfcn : Nat
  pci : Nat
  rsrq : Option Int
  rsrp : Option Int
  rssi : Option Int
  sinr : Text
  rest : List Text
  small : earfcn < 2 ^ 32 ∧ pci < 2 ^ 16
  ranges : ∀ n ∈ [rsrq,rsrp,rssi], ∀ m, n = some m → -2 ^ 31 ≤ m ∧ m < 2 ^ 31
  fields : ∀ field ∈ sinr :: rest, Fields.isField field = true ∧ 'n' ∉ field
  unquoted : '"' ∉ sinr

namespace Neighbour

def cellType (cell : Neighbour) : Text := if cell.intra then "intra".toList else "inter".toList

def kind (cell : Neighbour) : Text := "neighbourcell ".toList ++ cell.cellType

def parts (cell : Neighbour) : List Text :=
  quoted cell.kind :: quoted "LTE".toList :: Nat.toDigits 10 cell.earfcn :: Nat.toDigits 10 cell.pci :: shown cell.rsrq ::
    shown cell.rsrp :: shown cell.rssi :: cell.sinr :: cell.rest

def line (cell : Neighbour) : Text := Fields.line qeng cell.parts

/-- What is to be read of the cell. -/
def data {F : Type} (parseF64 : Text → Option F) (cell : Neighbour) : NeighborCell F where
  earfcn := cell.earfcn
  pci := cell.pci
  rsrp := cell.rsrp
  rsrq := cell.rsrq
  rssi := cell.rssi
  sinr := parseF64 cell.sinr
  cellType := cell.cellType

end Neighbour

theorem kind_cases (cell : Neighbour) : cell.intra = true ∧ cell.kind = "neighbourcell intra".toList ∨
    cell.intra = false ∧ cell.kind = "neighbourcell inter".toList := by
  unfold Neighbour.kind Neighbour.cellType
  cases cell.intra
  · exact .inr ⟨rfl,by decide⟩
  · exact .inl ⟨rfl,by decide⟩

theorem isField_shown (n : Option Int) : Fields.isField (shown n) = true := by
  cases n with
  | none => decide
  | some n => exact isField_int n

theorem not_mem_decimal {c : Char} (other : c.isDigit = false) (n : Nat) : c ∉ Nat.toDigits 10 n := by
  intro member
  rw [Nat.isDigit_of_mem_toDigits (by decide) (by decide) member] at other
  cases other

theorem not_mem_shown {c : Char} (other : c.isDigit = false) (apart : c ≠ '-') (n : Option Int) : c ∉ shown n := by
  cases n with
  | none => exact fun member => apart (List.mem_singleton.mp member)
  | some n =>
    cases n with
    | ofNat n =>
      rw [shown,toString_ofNat]
      exact not_mem_decimal other n
    | negSucc n =>
      rw [shown,toString_negSucc]
      intro member
      rcases List.mem_cons.mp member with dash | digit
      · exact apart dash
      · exact not_mem_decimal other _ digit

theorem parseI32_shown {n : Option Int} (range : ∀ m, n = some m → -2 ^ 31 ≤ m ∧ m < 2 ^ 31) : parseI32 (shown n) = n := by
  cases n with
  | none => decide
  | some m => exact parseSigned_toString (range m rfl).1 (range m rfl).2

theorem Neighbour.parts_fields (cell : Neighbour) : ∀ field ∈ cell.parts, Fields.isField field = true := by
  intro field member
  simp only [Neighbour.parts,List.mem_cons] at member
  rcases member with rfl | rfl | rfl | rfl | rfl | rfl | rfl | sinr | rest
  · rcases kind_cases cell with ⟨-,kind⟩ | ⟨-,kind⟩
    · rw [kind]
      decide
    · rw [kind]
      decide
  · decide
  · exact isField_decimal _
  · exact isField_decimal _
  · exact isField_shown _
  · exact isField_shown _
  · exact isField_shown _
  · exact (cell.fields field (sinr ▸ List.mem_cons_self)).1
  · exact (cell.fields field (List.mem_cons_of_mem _ rest)).1

/-- Only the first field names the kind of the cell. -/
theorem contains_kind (cell : Neighbour) {sought : Text} (letter : 'n' ∈ sought) (free : ',' ∉ sought) :
    contains (Fields.body cell.parts) sought = contains (quoted cell.kind) sought := by
  have none_ : ∀ field ∈ cell.parts.tail, contains field sought = false := by
    intro field member
    refine contains_eq_false letter ?_
    simp only [Neighbour.parts,List.tail_cons,List.mem_cons] at member
    rcases member with rfl | rfl | rfl | rfl | rfl | rfl | sinr | rest
    · decide
    · exact not_mem_decimal (by decide) _
    · exact not_mem_decimal (by decide) _
    · exact not_mem_shown (by decide) (by decide) _
    · exact not_mem_shown (by decide) (by decide) _
    · exact not_mem_shown (by decide) (by decide) _
    · exact (cell.fields field (sinr ▸ List.mem_cons_self)).2
    · exact (cell.fields field (List.mem_cons_of_mem _ rest)).2
  have others : (cell.parts.tail.any fun field => contains field sought) = false :=
    List.any_eq_false.mpr fun field member => by rw [none_ field member]; decide
  have some_ : cell.parts ≠ [] := List.cons_ne_nil _ _
  rw [Fields.contains_body free some_]
  show (contains (quoted cell.kind) sought || cell.parts.tail.any fun field => contains field sought) = _
  rw [others,Bool.or_false]

theorem Neighbour.tells_line (cell : Neighbour) : tellsNeighbour cell.line = true := by
  rw [tellsNeighbour,Bool.and_eq_true,contains_iff,contains_iff]
  have kind : quoted cell.kind ∈ cell.parts := List.mem_cons_self
  constructor
  · exact ⟨[],' ' :: Fields.body cell.parts,by simp [Neighbour.line,Fields.line,qeng]⟩
  · refine List.IsInfix.trans ?_ (Fields.infix_line kind)
    rcases kind_cases cell with ⟨-,kind⟩ | ⟨-,kind⟩
    · rw [kind]
      exact ⟨['"']," intra\"".toList,by decide⟩
    · rw [kind]
      exact ⟨['"']," inter\"".toList,by decide⟩

theorem read_part {field : Text} (isField : Fields.isField field = true) (free : '"' ∉ field) : trimMatches '"' (trim field) = field := by
  rw [Fields.trim_dark (Fields.isField_iff.mp isField).2,trimMatches_other free]

theorem cellTypeOf_body (cell : Neighbour) : cellTypeOf (Fields.body cell.parts) = some cell.cellType := by
  rw [cellTypeOf,contains_kind cell (by decide) (by decide),contains_kind cell (by decide) (by decide),Neighbour.cellType]
  rcases kind_cases cell with ⟨intra,kind⟩ | ⟨inter,kind⟩
  · rw [intra,kind]
    decide
  · rw [inter,kind]
    decide

theorem neighbourAt_parts (parseF64 : Text → Option F) (cell : Neighbour) :
    neighbourAt parseF64 cell.cellType (cell.parts.map fun s => trimMatches '"' (trim s)) = some (cell.data parseF64) := by
  obtain ⟨earfcn,pci⟩ := cell.small
  have part : ∀ field ∈ cell.parts, '"' ∉ field → trimMatches '"' (trim field) = field :=
    fun field there free => read_part (cell.parts_fields field there) free
  have number : ∀ n, Nat.toDigits 10 n ∈ cell.parts → trimMatches '"' (trim (Nat.toDigits 10 n)) = Nat.toDigits 10 n :=
    fun n there => part _ there (not_mem_decimal (by decide) n)
  have strength : ∀ n, shown n ∈ cell.parts → trimMatches '"' (trim (shown n)) = shown n :=
    fun n there => part _ there (not_mem_shown (by decide) (by decide) n)
  have rsrq := parseI32_shown (cell.ranges cell.rsrq (by simp))
  have rsrp := parseI32_shown (cell.ranges cell.rsrp (by simp))
  have rssi := parseI32_shown (cell.ranges cell.rssi (by simp))
  have enough : ¬ (cell.parts.map fun s => trimMatches '"' (trim s)).length < 6 := by simp [Neighbour.parts]
  rw [neighbourAt,if_neg enough]
  simp only [Neighbour.parts,List.map_cons,List.getElem?_cons_succ,List.getElem?_cons_zero,Option.bind_some,
    number cell.earfcn (by simp [Neighbour.parts]),number cell.pci (by simp [Neighbour.parts]),
    strength cell.rsrq (by simp [Neighbour.parts]),strength cell.rsrp (by simp [Neighbour.parts]),
    strength cell.rssi (by simp [Neighbour.parts]),part cell.sinr (by simp [Neighbour.parts]) cell.unquoted,parseU32,parseU16,
    fromStrRadix_decimal earfcn,fromStrRadix_decimal pci,rsrq,rsrp,rssi,Neighbour.data]

theorem neighbourOf_line (parseF64 : Text → Option F) (cell : Neighbour) : neighbourOf parseF64 cell.line = some (cell.data parseF64) := by
  have some_ : cell.parts ≠ [] := List.cons_ne_nil _ _
  have data : Fields.data cell.line = some (Fields.body cell.parts) := Fields.data_line cell.parts_fields some_ (by decide)
  have split : (Fields.body cell.parts).splitOn ',' = cell.parts := Fields.split_body cell.parts_fields some_
  rw [neighbourOf,if_pos cell.tells_line,data,Option.bind_some,cellTypeOf_body,Option.bind_some,split,neighbourAt_parts]

/-- The neighbour cells are read in their order, whatever lines stand between them. -/
theorem neighbour_cells_read (parseF64 : Text → Option F) {response : Text} (written : List (Neighbour ⊕ Text))
    (lines : Texts.lines response = written.map (Sum.elim Neighbour.line id))
    (others : ∀ l, .inr l ∈ written → tellsNeighbour l = false) :
    parseNeighbour parseF64 response = (written.filterMap Sum.getLeft?).map (Neighbour.data parseF64) := by
  rw [parseNeighbour,lines,List.filterMap_map,List.map_filterMap]
  refine List.filterMap_congr fun e member => ?_
  cases e with
  | inl cell => exact neighbourOf_line parseF64 cell
  | inr l =>
    show neighbourOf parseF64 l = none
    rw [neighbourOf,others l member]
    rfl

def nearCell : Neighbour where
  intra := true
  earfcn := 2050
  pci := 305
  rsrq := some (-12)
  rsrp := some (-98)
  rssi := none
  sinr := "8".toList
  rest := []
  small := by decide
  ranges := by decide
  fields := by decide
  unquoted := by decide

theorem neighbour_cells_read_near : parseNeighbour some (nearCell.line ++ "\r\nOK\r\n".toList) = [nearCell.data some] :=
  neighbour_cells_read some [.inl nearCell,.inr "OK".toList] (by decide) (by
    intro l member
    obtain rfl : l = "OK".toList := by simpa using member
    decide)

end Sctl.CellReports
