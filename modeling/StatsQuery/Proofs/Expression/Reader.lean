import StatsQuery.Expression.Primary
import StatsQuery.Json.Parser
import StatsQuery.Proofs.Text.Runs

namespace StatsQuery.Expression

open Json (Reader after?)

def unquote : Reader (List Char)
  | '\x27' :: '\x27' :: cs => (unquote cs).map fun (text, rest) => ('\x27' :: text, rest)
  | '\x27' :: cs           => some ([], cs)
  | c :: cs                => (unquote cs).map fun (text, rest) => (c :: text, rest)
  | []                     => none

def Literal.read : Reader Literal
  | '\x27' :: cs => (unquote cs).map fun (text, rest) => (.quoted (.ofList text), rest)
  | cs           =>
    let digits := cs.takeWhile Char.isDigit
    if digits.isEmpty then none else some (.bare (.ofList digits), cs.dropWhile Char.isDigit)

-- One or more items with a separator between them. A separator takes at least one character, so `fuel`
-- need not exceed the length of the text by more than one.
def separated (item : Reader α) (separator : List Char) : Nat → Reader (List α)
  | 0, _ => none
  | fuel + 1, cs => do
    let (a, cs) ← item cs
    match after? separator cs with
    | some cs => (separated item separator fuel cs).map fun (as, rest) => (a :: as, rest)
    | none    => some ([a], cs)

def Literal.starts (c : Char) : Bool :=
  c == '\x27' || c.isDigit

namespace Clause

def within? : List Char → Option (List Char)
  | '%' :: cs => if cs.getLast? = some '%' then some cs.dropLast else none
  | _         => none

def ofParts? (column operator : String) (value : Literal) : Option Clause :=
  if operator = " likeIgnoreCase " then
    match value with
    | .quoted text => (within? text.toList).map fun text => .contains column (.ofList text)
    | .bare _      => none
  else some (.relation column operator value)

def readRelation : Reader Clause := fun cs => do
  let column := cs.takeWhile Char.isAlpha
  let cs := cs.dropWhile Char.isAlpha
  let operator := cs.takeWhile (!Literal.starts ·)
  let (value, rest) ← Literal.read (cs.dropWhile (!Literal.starts ·))
  return (← ofParts? (.ofList column) (.ofList operator) value, rest)

def readCode : Reader String := fun cs => do
  let (text, rest) ← unquote (← after? "positionCode='".toList cs)
  return (.ofList text, rest)

def readChoice : Reader Clause
  | ')' :: rest => some (.oneOf "positionCode" [], rest)
  | cs          => do
    let (codes, rest) ← separated readCode " or ".toList (cs.length + 1) cs
    return (.oneOf "positionCode" codes, ← after? [')'] rest)

def read : Reader Clause
  | '(' :: cs => readChoice cs
  | cs        => readRelation cs

end Clause

def read? (cs : List Char) : Option (List Clause) :=
  match separated Clause.read " and ".toList (cs.length + 1) cs with
  | some (clauses, []) => some clauses
  | _                  => none

section

variable {rest separator : List Char}

theorem after?_append : after? separator (separator ++ rest) = some rest := by
  induction separator <;> simp_all [after?]

theorem quoteChars_append (text : List Char) (h : rest.head? ≠ some '\x27') :
    ∃ cs, quoteChars text ++ rest = '\x27' :: cs ∧ unquote cs = some (text, rest) := by
  refine ⟨_, rfl, ?_⟩
  induction text
  case nil => cases rest <;> simp_all [unquote]
  case cons c _ hi => by_cases hc : c = '\x27' <;> simp_all [unquote]

def Follows (rest : List Char) : Prop :=
  ∀ c ∈ rest.head?, Literal.starts c = false

theorem Follows.nil : Follows [] := by
  simp [Follows]

theorem Follows.cons (h : Literal.starts c = false) : Follows (c :: rest) := by
  simp [Follows, h]

theorem Follows.head_ne (h : Follows rest) : rest.head? ≠ some '\x27' :=
  fun hr => nomatch h _ hr

theorem Follows.isDigit (h : Follows rest) : ∀ c ∈ rest.head?, c.isDigit = false := by
  intro c hc
  have := h c hc
  simp_all [Literal.starts]

end

section

variable {item : Reader α} {text : α → List Char} {rest separator : List Char}

-- Items that are read back one by one are read back from their sequence, as long as a separator or what
-- follows the sequence can be told from an item.
theorem separated_append
    (hi : ∀ a ∈ as, ∀ rest, Follows rest → item (text a ++ rest) = some (a, rest))
    (hs : ∀ rest, Follows (separator ++ rest)) (hr : Follows rest) (hn : after? separator rest = none)
    (ha : as ≠ []) (hf : as.length ≤ fuel) :
    separated item separator fuel (List.intercalate separator (as.map text) ++ rest) = some (as, rest) := by
  induction as generalizing fuel
  case nil => contradiction
  case cons a as hj =>
    cases fuel
    case zero => simp at hf
    case succ =>
      cases as
      case nil => simp [separated, hi a (by simp) rest hr, hn]
      case cons b bs =>
        have hj := hj (fun c hc => hi c (.tail _ hc)) (by simp) (Nat.le_of_succ_le_succ hf)
        simp only [List.map_cons, List.intercalate_cons_cons, List.append_assoc] at hj ⊢
        simp [separated, hi a (by simp) _ (hs _), after?_append, hj]

theorem separated_intercalate
    (hi : ∀ a ∈ as, ∀ rest, Follows rest → item (text a ++ rest) = some (a, rest))
    (hs : ∀ rest, Follows (separator ++ rest)) (hr : Follows rest) (hn : after? separator rest = none)
    (ha : as ≠ []) (h : separator ≠ [])
    (hc : cs = List.intercalate separator (as.map text) ++ rest) :
    separated item separator (cs.length + 1) cs = some (as, rest) := by
  have hl := length_le_intercalate h (as.map text)
  have hf : as.length ≤ cs.length + 1 := by
    simp only [List.length_map, List.length_append, hc] at hl ⊢
    omega
  exact hc ▸ separated_append hi hs hr hn ha (hc ▸ hf)

end

namespace Literal

def Regular : Literal → Prop
  | .bare digits => Text.isNumeral digits.toList
  | .quoted _    => True

variable {v : Literal}

theorem regular_bare_iff :
    (bare digits).Regular ↔ digits.toList ≠ [] ∧ ∀ c ∈ digits.toList, c.isDigit := by
  simp [Regular, Text.isNumeral]

theorem Regular.starts (h : v.Regular) : ∀ c ∈ (v.text ++ rest).head?, Literal.starts c := by
  cases v
  case quoted => simp [Literal.text, quoteChars, Literal.starts]
  case bare digits =>
    have ⟨hn, hd⟩ := regular_bare_iff.mp h
    cases hs : digits.toList <;> simp_all [Literal.text, Literal.starts]

theorem read_append (h : v.Regular) (hr : Follows rest) : read (v.text ++ rest) = some (v, rest) := by
  cases v
  case quoted s =>
    have ⟨cs, hc, hu⟩ := quoteChars_append s.toList hr.head_ne
    simp [Literal.text, hc, read, hu]
  case bare digits =>
    have ⟨hn, hd⟩ := regular_bare_iff.mp h
    have hs := while_append rest hd hr.isDigit
    unfold read
    split
    case h_2    => simp [Literal.text, hs, hn]
    case h_1 hc =>
      have hq : '\x27' ∈ digits.toList := by
        rw [Literal.text] at hc
        cases hl : digits.toList <;> simp_all
      exact absurd (hd _ hq) (by decide)

end Literal

namespace Clause

def isOperator : List Char → Bool
  | []      => false
  | c :: cs => !c.isAlpha && (c :: cs).all (!Literal.starts ·)

def isColumn (cs : List Char) : Bool :=
  !cs.isEmpty && cs.all Char.isAlpha

inductive Regular : Clause → Prop
  | relation :
    (isColumn column.toList) → (operator ∈ ["=", "<=", ">="]) → (value.Regular) →
      Regular (.relation column operator value)
  | contains : (isColumn column.toList) → Regular (.contains column s)
  | oneOf : Regular (.oneOf "positionCode" codes)

theorem read_relationText {column operator : String} {value : Literal}
    (hc : isColumn column.toList) (ho : isOperator operator.toList) (hv : value.Regular)
    (hr : Follows rest) :
    read (relationText column operator value ++ rest) =
      (ofParts? column operator value).map (·, rest) := by
  simp only [isColumn, Bool.and_eq_true, List.all_eq_true] at hc
  have hs := while_append (operator.toList ++ (value.text ++ rest)) hc.right <| by
    cases h : operator.toList <;> simp_all [isOperator]
  have ho : ∀ c ∈ operator.toList, !Literal.starts c := by
    cases h : operator.toList <;> simp_all [isOperator]
  have ht := while_append (value.text ++ rest) ho (by simpa using hv.starts)
  unfold read
  split
  case h_1 hp =>
    have hp : '(' ∈ column.toList := by
      rw [relationText] at hp
      cases hl : column.toList <;> simp_all
    exact absurd (hc.right _ hp) (by decide)
  case h_2 =>
    simp only [readRelation, relationText, List.append_assoc, hs, ht, Literal.read_append hv hr,
      String.ofList_toList, Option.bind_eq_bind, Option.bind_some]
    cases ofParts? column operator value <;> rfl

theorem readCode_append (code : String) (hr : Follows rest) :
    readCode (relationText "positionCode" "=" (.quoted code) ++ rest) = some (code, rest) := by
  have ⟨cs, hc, hu⟩ := quoteChars_append code.toList hr.head_ne
  have ha : after? "positionCode='".toList ("positionCode".toList ++ ("=".toList ++ '\x27' :: cs)) = some cs :=
    rfl
  simp only [readCode, relationText, Literal.text, List.append_assoc, hc, ha]
  simp [hu]

theorem read_oneOf (codes : List String) :
    read ((oneOf "positionCode" codes).text ++ rest) = some (oneOf "positionCode" codes, rest) := by
  cases codes
  case nil => simp [Clause.text, read, readChoice]
  case cons code codes =>
    -- The first of the codes keeps the text from being taken for a choice between none.
    have ⟨cs, hc⟩ : ∃ cs, (oneOf "positionCode" (code :: codes)).text ++ rest = '(' :: 'p' :: cs := by
      cases codes <;> exact ⟨_, rfl⟩
    have hs : separated readCode " or ".toList (('p' :: cs).length + 1) ('p' :: cs) =
        some (code :: codes, ')' :: rest) := by
      refine separated_intercalate
        (fun c _ _ => readCode_append c) (fun _ => .cons rfl) (.cons rfl) rfl (by simp) (by decide) ?_
      simpa [Clause.text] using (List.cons.inj hc).right.symm
    simp only [hc, read, readChoice]
    simp_all [after?]

theorem read_append {c : Clause} (h : c.Regular) (hr : Follows rest) :
    read (c.text ++ rest) = some (c, rest) := by
  cases h
  case relation operator column value hc ho hv =>
    have hp : isOperator operator.toList ∧ operator ≠ " likeIgnoreCase " := by
      simp at ho
      rcases ho with rfl | rfl | rfl <;> decide
    simp [Clause.text, read_relationText hc hp.left hv hr, ofParts?, hp.right]
  case contains column s hc =>
    have hv : (Literal.quoted (.ofList ('%' :: s.toList ++ ['%']))).Regular := trivial
    have ho : isOperator " likeIgnoreCase ".toList := by decide
    simpa [ofParts?, within?, Clause.text, relationText, Literal.text] using read_relationText hc ho hv hr
  case oneOf => exact read_oneOf _

end Clause

theorem read?_conjunction (hn : cs ≠ []) (h : ∀ c ∈ cs, c.Regular) :
    read? (Clause.conjunction cs) = some cs := by
  have hs : separated Clause.read " and ".toList ((Clause.conjunction cs).length + 1) (Clause.conjunction cs) =
      some (cs, []) := by
    refine separated_intercalate
      (fun c hc _ => Clause.read_append (h c hc)) (fun _ => .cons rfl) .nil rfl hn (by decide) ?_
    simp [Clause.conjunction]
  simp only [read?, hs]

end StatsQuery.Expression
