import Mathlib.Data.List.Chain
import StatsQuery.Proofs.Expression.Injective

namespace StatsQuery.Expression

namespace Grammar

inductive IsName : List Char → Prop
  | letter : c.isAlpha → (∀ d ∈ cs, d.isAlphanum ∨ d = '_') → IsName (c :: cs)

theorem IsName.alphanum (h : IsName cs) : ∀ c ∈ cs, c.isAlphanum ∨ c = '_' := by
  cases h with
  | letter hc hs => exact List.forall_mem_cons.mpr ⟨.inl <| isAlphanum_of_isAlpha hc, hs⟩

def operators : List String :=
  [">=", "<=", "=", ">", "<", "!="]

inductive Quoted : List Char → Prop
  | nil   : Quoted []
  | quote : Quoted cs → Quoted ('\x27' :: '\x27' :: cs)
  | other : c ≠ '\x27' → Quoted cs → Quoted (c :: cs)

inductive IsLiteral : List Char → Prop
  | digits : cs ≠ [] → (∀ c ∈ cs, c.isDigit) → IsLiteral cs
  | quoted : Quoted cs → IsLiteral ('\x27' :: cs ++ ['\x27'])

inductive Alternatives : List Char → Prop
  | one  : IsName name → IsLiteral value → Alternatives (name ++ ['='] ++ value)
  | more : IsName name → IsLiteral value → Alternatives cs →
      Alternatives (name ++ ['='] ++ value ++ (" or ".toList ++ cs))

inductive IsClause : List Char → Prop
  | relation : IsName name → operator ∈ operators → IsLiteral value → IsClause (name ++ operator.toList ++ value)
  | like     : IsName name → IsLiteral value → IsClause (name ++ " likeIgnoreCase ".toList ++ value)
  | choice   : Alternatives cs → IsClause ('(' :: cs ++ [')'])

inductive Sentence : List Char → Prop
  | clause : IsClause cs → Sentence cs
  | and    : IsClause cs → Sentence ds → Sentence (cs ++ (" and ".toList ++ ds))

end Grammar

open Grammar

section Written

theorem quoted_flatMap (cs : List Char) : Quoted (cs.flatMap fun c => if c = '\x27' then [c, c] else [c]) := by
  induction cs with
  | nil          => exact .nil
  | cons c cs hi =>
    rw [List.flatMap_cons]
    split
    case isTrue h  => exact h ▸ .quote hi
    case isFalse h => exact .other h hi

theorem isLiteral_quoteChars (cs : List Char) : IsLiteral (quoteChars cs) :=
  .quoted <| quoted_flatMap cs

theorem Literal.Regular.isLiteral {v : Literal} (h : v.Regular) : IsLiteral v.text := by
  cases v with
  | quoted text => exact isLiteral_quoteChars _
  | bare digits =>
    have ⟨hn, hd⟩ := regular_bare_iff.mp h
    exact .digits hn hd

namespace Clause

theorem isName_of_isColumn (h : isColumn cs) : IsName cs := by
  have ⟨hn, ha⟩ := Bool.and_eq_true_iff.mp h
  cases cs with
  | nil       => contradiction
  | cons c cs =>
    have ⟨hc, hs⟩ := List.forall_mem_cons.mp <| List.all_eq_true.mp ha
    exact .letter hc fun d hd => .inl <| isAlphanum_of_isAlpha <| hs d hd

theorem alternatives_codes (code : String) (codes : List String) :
    Alternatives (List.intercalate " or ".toList
      ((code :: codes).map fun code => relationText "positionCode" "=" (.quoted code))) := by
  have hn : IsName "positionCode".toList := isName_of_isColumn (by decide)
  induction codes generalizing code with
  | nil               =>
    rw [List.map_singleton, List.intercalate_singleton]
    exact .one hn <| isLiteral_quoteChars _
  | cons next codes hi =>
    rw [List.map_cons, List.map_cons, List.intercalate_cons_cons, List.append_assoc]
    exact .more hn (isLiteral_quoteChars _) (hi next)

theorem Regular.isClause {c : Clause} (h : c.Regular) (hn : c ≠ .oneOf "positionCode" []) : IsClause c.text := by
  cases h with
  | relation hc ho hv =>
    refine .relation (isName_of_isColumn hc) ?_ hv.isLiteral
    simp at ho
    rcases ho with rfl | rfl | rfl <;> simp [operators]
  | contains hc       => exact .like (isName_of_isColumn hc) <| isLiteral_quoteChars _
  | @oneOf codes      =>
    cases codes with
    | nil       => contradiction
    | cons _ _  => exact .choice <| alternatives_codes _ _

theorem conjunction_cons_cons (c d : Clause) (cs : List Clause) :
    conjunction (c :: d :: cs) = c.text ++ (" and ".toList ++ conjunction (d :: cs)) := by
  simp only [conjunction, List.map_cons, List.intercalate_cons_cons, List.append_assoc]

theorem sentence_conjunction (c : Clause) (cs : List Clause) (h : ∀ d ∈ c :: cs, IsClause d.text) :
    Sentence (conjunction (c :: cs)) := by
  induction cs generalizing c with
  | nil          => simpa [conjunction] using Sentence.clause (h c List.mem_cons_self)
  | cons d cs hi =>
    obtain ⟨hc, hs⟩ := List.forall_mem_cons.mp h
    exact conjunction_cons_cons c d cs ▸ .and hc (hi d hs)

end Clause

end Written

section Quotes

-- The text outside of quotes. A quote that is written twice within them closes a quoted text and opens it again.
def outside (quoted : Bool) : List Char → List Char
  | []      => []
  | c :: cs =>
    if c = '\x27' then outside (!quoted) cs
    else if quoted then outside quoted cs
    else c :: outside quoted cs

def Leaves (cs ds : List Char) : Prop :=
  ∀ rest, outside false (cs ++ rest) = ds ++ outside false rest

variable {cs ds cs' ds' : List Char}

theorem Leaves.outside_eq (h : Leaves cs ds) : outside false cs = ds := by
  simpa [outside] using h []

theorem Leaves.append (h : Leaves cs ds) (h' : Leaves cs' ds') : Leaves (cs ++ cs') (ds ++ ds') := by
  intro rest
  rw [List.append_assoc, h, h', List.append_assoc]

theorem Leaves.of_unquoted (h : ∀ c ∈ cs, c ≠ '\x27') : Leaves cs cs := by
  intro rest
  induction cs with
  | nil          => rfl
  | cons c cs hi =>
    have ⟨hc, hs⟩ := List.forall_mem_cons.mp h
    rw [List.cons_append, outside, if_neg hc, hi hs]
    rfl

theorem outside_quoted (h : Quoted cs) (rest : List Char) : outside true (cs ++ rest) = outside true rest := by
  induction h with
  | nil         => rfl
  | quote _ hi  => simpa [outside] using hi
  | other hc _ hi => simpa [outside, hc] using hi

theorem Leaves.quoted (h : Quoted cs) : Leaves ('\x27' :: cs ++ ['\x27']) [] := by
  intro rest
  have := outside_quoted h ('\x27' :: rest)
  simpa [outside] using this

def Flat (cs : List Char) : Prop :=
  ∀ c ∈ cs, c ≠ '\x27' ∧ c ≠ '(' ∧ c ≠ ')'

theorem Flat.append (h : Flat cs) (h' : Flat ds) : Flat (cs ++ ds) :=
  List.forall_mem_append.mpr ⟨h, h'⟩

theorem Flat.leaves (h : Flat cs) : Leaves cs cs :=
  .of_unquoted fun c hc => (h c hc).left

theorem Flat.of_alphanum (h : ∀ c ∈ cs, c.isAlphanum ∨ c = '_') : Flat cs := by
  refine fun c hc => ⟨?_, ?_, ?_⟩ <;> rintro rfl <;> exact absurd (h _ hc) (by decide)

theorem Grammar.IsName.flat (h : IsName cs) : Flat cs :=
  .of_alphanum h.alphanum

theorem flat_of_mem_operators (h : operator ∈ operators) : Flat operator.toList := by
  simp only [operators, List.mem_cons, List.not_mem_nil, or_false] at h
  rcases h with rfl | rfl | rfl | rfl | rfl | rfl <;> simp [Flat]

def Plain (cs : List Char) : Prop :=
  ∃ ds, Leaves cs ds ∧ Flat ds

theorem Flat.plain (h : Flat cs) : Plain cs :=
  ⟨cs, h.leaves, h⟩

theorem Plain.append (h : Plain cs) (h' : Plain cs') : Plain (cs ++ cs') := by
  have ⟨_, hl, hf⟩ := h
  have ⟨_, hl', hf'⟩ := h'
  exact ⟨_, hl.append hl', hf.append hf'⟩

theorem Grammar.IsLiteral.plain (h : IsLiteral cs) : Plain cs := by
  cases h with
  | digits _ hd => exact Flat.plain <| .of_alphanum fun c hc => .inl <| isAlphanum_of_isDigit <| hd c hc
  | quoted hq   => exact ⟨[], .quoted hq, nofun⟩

def Filled (cs : List Char) : Prop :=
  cs.IsChain fun c d => c = '(' → d ≠ ')'

theorem Flat.filled (h : Flat cs) : Filled cs := by
  induction cs with
  | nil          => exact .nil
  | cons c cs hi =>
    have ⟨hc, hs⟩ := List.forall_mem_cons.mp h
    exact List.isChain_cons.mpr ⟨fun _ _ he => absurd he hc.right.left, hi hs⟩

theorem Filled.append (h : Filled cs) (h' : Filled ds) (hd : cs.getLast? ≠ some '(' ∨ ds.head? ≠ some ')') :
    Filled (cs ++ ds) := by
  refine List.isChain_append.mpr ⟨h, h', fun c hc d hd' he hf => ?_⟩
  cases hd with
  | inl hl => exact hl (he ▸ hc)
  | inr hr => exact hr (hf ▸ hd')

theorem Filled.of_append (h : Filled (cs ++ ds)) : Filled cs ∧ Filled ds :=
  have ⟨hc, hd, _⟩ := List.isChain_append.mp h
  ⟨hc, hd⟩

theorem Grammar.Alternatives.leaves (h : Alternatives cs) : ∃ d ds, Leaves cs (d :: ds) ∧ Flat (d :: ds) := by
  have first {name value : List Char} (hn : IsName name) (hv : IsLiteral value) :
      ∃ d ds, Leaves (name ++ ['='] ++ value) (d :: ds) ∧ Flat (d :: ds) := by
    have ⟨vs, hl, hf⟩ := hv.plain
    have hq : Flat (name ++ ['=']) := hn.flat.append (by simp [Flat])
    cases hn with
    | letter => exact ⟨_, _, hq.leaves.append hl, hq.append hf⟩
  induction h with
  | one hn hv       => exact first hn hv
  | more hn hv _ hi =>
    have ⟨_, _, hl, hf⟩ := first hn hv
    have ⟨_, _, hl', hf'⟩ := hi
    have ho : Flat " or ".toList := by simp [Flat]
    exact ⟨_, _, hl.append <| ho.leaves.append hl', hf.append <| ho.append hf'⟩

theorem Grammar.IsClause.leaves (h : IsClause cs) : ∃ ds, Leaves cs ds ∧ Filled ds := by
  cases h with
  | relation hn ho hv =>
    have ⟨ds, hl, hf⟩ := (hn.flat.append <| flat_of_mem_operators ho).plain.append hv.plain
    exact ⟨ds, hl, hf.filled⟩
  | like hn hv =>
    have ho : Flat " likeIgnoreCase ".toList := by simp [Flat]
    have ⟨ds, hl, hf⟩ := (hn.flat.append ho).plain.append hv.plain
    exact ⟨ds, hl, hf.filled⟩
  | choice ha =>
    have ⟨d, ds, hl, hf⟩ := ha.leaves
    have hd : (d :: ds).head? ≠ some ')' := fun he => (hf d List.mem_cons_self).right.right <| Option.some.inj he
    have hg : ('(' :: d :: ds).getLast? ≠ some '(' := fun he =>
      (hf _ <| List.mem_of_getLast? <| List.getLast?_cons_cons ▸ he).right.left rfl
    have opening : Leaves ['('] ['('] := .of_unquoted (by simp)
    have closing : Leaves [')'] [')'] := .of_unquoted (by simp)
    refine ⟨_, (opening.append hl).append closing, ?_⟩
    exact .append (.append (.singleton _) hf.filled (.inr hd)) (.singleton _) (.inl hg)

theorem Grammar.Sentence.leaves (h : Sentence cs) : ∃ ds, Leaves cs ds ∧ Filled ds := by
  induction h with
  | clause hc    => exact hc.leaves
  | and hc _ hi =>
    have ⟨cs, hl, hf⟩ := hc.leaves
    have ⟨ds, hl', hf'⟩ := hi
    have ha : Flat " and ".toList := by simp [Flat]
    refine ⟨_, hl.append <| ha.leaves.append hl', ?_⟩
    exact hf.append (ha.filled.append hf' <| .inl <| by simp) <| .inr <| by simp

end Quotes

namespace Clause

theorem Regular.leaves {c : Clause} (h : c.Regular) :
    ∃ ds, Leaves c.text ds ∧ (c = .oneOf "positionCode" [] → ¬Filled ds) := by
  by_cases hn : c = .oneOf "positionCode" []
  case pos => exact ⟨['(', ')'], hn ▸ .of_unquoted (by simp [text]), fun _ => by simp [Filled]⟩
  case neg =>
    obtain ⟨ds, hl, _⟩ := (h.isClause hn).leaves
    exact ⟨ds, hl, fun he => absurd he hn⟩

theorem leaves_conjunction (c : Clause) (cs : List Clause) (h : ∀ d ∈ c :: cs, d.Regular) :
    ∃ ds, Leaves (conjunction (c :: cs)) ds ∧ (.oneOf "positionCode" [] ∈ c :: cs → ¬Filled ds) := by
  induction cs generalizing c with
  | nil =>
    obtain ⟨ds, hl, hn⟩ := (h c List.mem_cons_self).leaves
    exact ⟨ds, by simpa [conjunction] using hl, fun hm => hn (List.mem_singleton.mp hm).symm⟩
  | cons d cs hi =>
    obtain ⟨hc, hs⟩ := List.forall_mem_cons.mp h
    obtain ⟨_, hl, hn⟩ := hc.leaves
    obtain ⟨_, hl', hn'⟩ := hi d hs
    have ha : Leaves " and ".toList " and ".toList := .of_unquoted (by simp)
    refine ⟨_, conjunction_cons_cons c d cs ▸ hl.append (ha.append hl'), fun hm hf => ?_⟩
    cases List.mem_cons.mp hm with
    | inl he => exact hn he.symm hf.of_append.left
    | inr hm => exact hn' hm hf.of_append.right.of_append.right

theorem sentence_conjunction_iff (hn : cs ≠ []) (h : ∀ c ∈ cs, c.Regular) :
    Sentence (conjunction cs) ↔ .oneOf "positionCode" [] ∉ cs := by
  cases cs with
  | nil       => contradiction
  | cons c cs =>
    constructor
    case mp =>
      intro hs hm
      have ⟨_, hl, hf⟩ := hs.leaves
      have ⟨_, hl', hn⟩ := leaves_conjunction c cs h
      exact hn hm <| (hl'.outside_eq.symm.trans hl.outside_eq) ▸ hf
    case mpr =>
      intro hm
      exact sentence_conjunction c cs fun d hd => (h d hd).isClause fun he => hm (he ▸ hd)

end Clause

end StatsQuery.Expression

namespace StatsQuery.Primary

open Expression Grammar

variable {p : Primary} {text : String}

theorem mem_predicates_iff : .oneOf "positionCode" [] ∈ p.predicates ↔ p.position = some (.many []) := by
  have hp (position : OneOrMany String) :
      positionClause position = .oneOf "positionCode" [] ↔ position = .many [] := by
    cases position <;> simp [positionClause, Clause.equal]
  simp [predicates, settings, Clause.equal, @eq_comm _ (some (Clause.oneOf _ _)), hp]

-- What a filter is compiled to is a sentence, unless its list of positions is empty.
theorem compile_sentence_iff (h : p.compile = .ok text) : Sentence text.toList ↔ p.position ≠ some (.many []) := by
  have ⟨s, hs, ht⟩ := compile_eq_ok_iff.mp h
  have hn : s.clauses ++ p.predicates ≠ [] := List.append_ne_nil_of_left_ne_nil s.clauses_ne_nil _
  have hc : .oneOf "positionCode" [] ∉ s.clauses := by
    cases s <;> simp [Selection.clauses, Clause.equal]
  rw [← ht, String.toList_ofList, Clause.sentence_conjunction_iff hn (regular_clauses hs), List.mem_append,
    mem_predicates_iff, or_iff_right hc]

theorem compile_sentence_iff_choice :
    let p := { ofSeason "20232024" with position := some (.many ["C", "D"]), playerName := some "O'Neil" }
    let text :=
      "seasonId=20232024 and (positionCode='C' or positionCode='D') and skaterFullName likeIgnoreCase '%O''Neil%'"
    p.compile = .ok text ∧ Sentence text.toList := by
  intro p text
  have hc : p.compile = .ok text := compile_eq_ok_iff.mpr ⟨.season "20232024", rfl, by decide⟩
  exact ⟨hc, (compile_sentence_iff hc).mpr (by simp [p])⟩

theorem compile_not_sentence : ¬∀ (p : Primary) (text : String), p.compile = .ok text → Sentence text.toList := by
  intro h
  have hs := h { ofSeason "20232024" with position := some (.many []) } "seasonId=20232024 and ()" rfl
  obtain ⟨ds, hl, hf⟩ := hs.leaves
  have hd : outside false "seasonId=20232024 and ()".toList = "seasonId=20232024 and ()".toList := by decide
  rw [← hl.outside_eq, hd] at hf
  simp [Filled] at hf

end StatsQuery.Primary
