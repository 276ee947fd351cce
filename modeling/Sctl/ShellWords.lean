import Mathlib.Data.List.Basic

/-!
How a shell breaks a line into words and operators, with blanks, comments and single quotes;
a line with another quoting is not read. The symbols of a line are arbitrary, so that
a line can have holes, and the words of a line with holes are those of the line
with the holes filled by plain text.
-/
namespace Sctl.ShellWords

/-- What a symbol does outside quotes. -/
inductive Kind
  | blank
  | newline
  | operator
  | quote
  | hash
  /-- It begins a quoting that is not read here. -/
  | unread
  | plain
deriving DecidableEq

/-- A word without its quotes, or an operator's symbol; an operator of two is two. -/
inductive Token (Symbol : Type)
  | word (text : List Symbol)
  | operator (text : List Symbol)
deriving DecidableEq

inductive Mode
  | outside
  | quoted
  | comment

section Lexing
variable {Symbol Image : Type} (kind : Symbol → Kind)

/-- The word that ends, if one had begun. -/
def ended : Option (List Symbol) → List (Token Symbol)
  | none => []
  | some word => [.word word]

/-- The word with more text in it, begun where none was. -/
def more (word : Option (List Symbol)) (text : List Symbol) : Option (List Symbol) := some (word.getD [] ++ text)

def lexFrom : Mode → Option (List Symbol) → List Symbol → Option (List (Token Symbol))
  | .quoted,_,[] => none
  | .quoted,word,c :: rest =>
    if kind c = .quote then lexFrom .outside word rest else lexFrom .quoted (more word [c]) rest
  | .comment,_,[] => some []
  | .comment,_,c :: rest =>
    if kind c = .newline then (lexFrom .outside none rest).map (.operator [c] :: ·) else lexFrom .comment none rest
  | .outside,word,[] => some (ended word)
  | .outside,word,c :: rest =>
    match kind c with
    | .blank => (lexFrom .outside none rest).map (ended word ++ ·)
    | .newline => (lexFrom .outside none rest).map (ended word ++ .operator [c] :: ·)
    | .operator => (lexFrom .outside none rest).map (ended word ++ .operator [c] :: ·)
    | .quote => lexFrom .quoted (more word []) rest
    | .hash => if word.isNone then lexFrom .comment none rest else lexFrom .outside (more word [c]) rest
    | .unread => none
    | .plain => lexFrom .outside (more word [c]) rest

/-- The words and operators of a line. -/
def lex (line : List Symbol) : Option (List (Token Symbol)) := lexFrom kind .outside none line

/-- Each symbol of the token replaced. -/
def Token.fill (f : Symbol → List Image) : Token Symbol → Token Image
  | .word text => .word (text.flatMap f)
  | .operator text => .operator (text.flatMap f)

/-- Plain symbols are filled by plain text, every other one by one of its kind. -/
structure Fills (kind' : Image → Kind) (f : Symbol → List Image) : Prop where
  plain : ∀ a, kind a = .plain → f a ≠ [] ∧ ∀ b ∈ f a, kind' b = .plain
  other : ∀ a, kind a ≠ .plain → ∃ b, f a = [b] ∧ kind' b = kind a

/-! ### Plain text stays in its word -/

variable {kind} {kind' : Image → Kind}

theorem lexFrom_plain {text : List Symbol} (plain : ∀ c ∈ text, kind c = .plain) (some_ : text ≠ [])
    (word : Option (List Symbol)) (rest : List Symbol) :
    lexFrom kind .outside word (text ++ rest) = lexFrom kind .outside (more word text) rest := by
  induction text generalizing word with
  | nil => contradiction
  | cons c text ih =>
    rw [List.cons_append,lexFrom,plain c List.mem_cons_self]
    cases text with
    | nil => rfl
    | cons d text =>
      refine (ih (fun e member => plain e (List.mem_cons_of_mem c member)) (List.cons_ne_nil d text) (more word [c])).trans ?_
      simp [more]

theorem lexFrom_quoted {text : List Symbol} (plain : ∀ c ∈ text, kind c = .plain) (some_ : text ≠ [])
    (word : Option (List Symbol)) (rest : List Symbol) :
    lexFrom kind .quoted word (text ++ rest) = lexFrom kind .quoted (more word text) rest := by
  induction text generalizing word with
  | nil => contradiction
  | cons c text ih =>
    rw [List.cons_append,lexFrom,if_neg (by rw [plain c List.mem_cons_self]; nofun)]
    cases text with
    | nil => rfl
    | cons d text =>
      refine (ih (fun e member => plain e (List.mem_cons_of_mem c member)) (List.cons_ne_nil d text) (more word [c])).trans ?_
      simp [more]

theorem lexFrom_comment {text : List Symbol} (plain : ∀ c ∈ text, kind c = .plain) (word : Option (List Symbol))
    (rest : List Symbol) : lexFrom kind .comment word (text ++ rest) = lexFrom kind .comment none rest := by
  induction text generalizing word with
  | nil => cases rest <;> rfl
  | cons c text ih =>
    rw [List.cons_append,lexFrom,if_neg (by rw [plain c List.mem_cons_self]; nofun)]
    exact ih (fun e member => plain e (List.mem_cons_of_mem c member)) none

theorem ended_map (f : Symbol → List Image) (word : Option (List Symbol)) :
    ended (word.map (·.flatMap f)) = (ended word).map (Token.fill f) := by
  cases word <;> rfl

theorem more_map (f : Symbol → List Image) (word : Option (List Symbol)) (text : List Symbol) :
    more (word.map (·.flatMap f)) (text.flatMap f) = (more word text).map (·.flatMap f) := by
  cases word <;> simp [more]

/-- The tokens of a filled line are the filled tokens of the line. -/
theorem lexFrom_fill {f : Symbol → List Image} (fills : Fills kind kind' f) (mode : Mode) (word : Option (List Symbol))
    (line : List Symbol) : lexFrom kind' mode (word.map (·.flatMap f)) (line.flatMap f) =
      (lexFrom kind mode word line).map (·.map (Token.fill f)) := by
  induction line generalizing mode word with
  | nil =>
    cases mode with
    | outside => simp [lexFrom,ended_map]
    | quoted => rfl
    | comment => rfl
  | cons c rest ih =>
    rw [List.flatMap_cons]
    by_cases plain : kind c = .plain
    · obtain ⟨some_,all⟩ := fills.plain c plain
      have grown : more (word.map (·.flatMap f)) (f c) = (more word [c]).map (·.flatMap f) := by
        rw [← more_map]
        simp
      cases mode with
      | outside => rw [lexFrom_plain all some_,grown,ih,lexFrom,plain]
      | quoted => rw [lexFrom_quoted all some_,grown,ih,lexFrom,if_neg (by rw [plain]; nofun)]
      | comment =>
        rw [lexFrom_comment all,lexFrom,if_neg (by rw [plain]; nofun)]
        exact ih .comment none
    · obtain ⟨b,single,same⟩ := fills.other c plain
      have grown : more (word.map (·.flatMap f)) [b] = (more word [c]).map (·.flatMap f) := by
        rw [← single,← more_map]
        simp
      have operator : (Token.operator [b] : Token Image) = Token.fill f (.operator [c]) := by simp [Token.fill,single]
      have outside := ih .outside none
      rw [Option.map_none] at outside
      rw [single,List.singleton_append]
      cases mode with
      | outside =>
        rw [lexFrom,lexFrom,same]
        cases sort : kind c with
        | blank => simp [outside,ended_map,Function.comp_def]
        | newline => simp [outside,ended_map,operator,Function.comp_def]
        | operator => simp [outside,ended_map,operator,Function.comp_def]
        | quote =>
          have begun := more_map f word []
          rw [List.flatMap_nil] at begun
          rw [begun]
          exact ih .quoted _
        | hash =>
          cases word with
          | none => exact ih .comment none
          | some word => exact (congrArg (fun w => lexFrom kind' .outside w _) grown).trans (ih .outside _)
        | unread => rfl
        | plain => exact absurd sort plain
      | quoted =>
        rw [lexFrom,lexFrom,same]
        split
        · exact ih .outside word
        · rw [grown]
          exact ih .quoted _
      | comment =>
        rw [lexFrom,lexFrom,same]
        split
        · simp [outside,operator,Function.comp_def]
        · exact ih .comment none

theorem lex_fill {f : Symbol → List Image} (fills : Fills kind kind' f) (line : List Symbol) :
    lex kind' (line.flatMap f) = (lex kind line).map (·.map (Token.fill f)) := lexFrom_fill fills .outside none line

end Lexing
end Sctl.ShellWords
