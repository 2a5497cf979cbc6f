import Mathlib.Data.List.Forall2
import StatsQuery.Proofs.Calendar.Reading
import StatsQuery.Proofs.Error.Steps
import StatsQuery.Proofs.Expression.Reader

namespace StatsQuery

open Expression

def Expression.Clause.column : Clause → String
  | .relation column .. => column
  | .contains column _  => column
  | .oneOf column _     => column

structure About (column : String) (setting : Option Clause) : Prop where
  column_eq : ∀ c ∈ setting, c.column = column
  regular   : ∀ c ∈ setting, c.Regular

namespace About

variable {columns : List String} {settings settings' : List (Option Clause)}

theorem map {f : α → Clause} (hc : ∀ a, (f a).column = column) (hr : ∀ a, (f a).Regular) (o : Option α) :
    About column (o.map f) where
  column_eq := by simp [hc]
  regular   := by simp [hr]

theorem mem (h : List.Forall₂ About columns settings) :
    ∀ c ∈ settings.filterMap id, c.column ∈ columns ∧ c.Regular := by
  induction h
  case nil => simp
  case cons column o _ _ ho _ hi =>
    cases o with
    | none   => exact fun c hc => have ⟨hm, hr⟩ := hi c hc; ⟨.tail _ hm, hr⟩
    | some d =>
      intro c hc
      cases List.mem_cons.mp hc
      case inl hc => exact hc ▸ ⟨ho.column_eq d rfl ▸ .head _, ho.regular d rfl⟩
      case inr hc => have ⟨hm, hr⟩ := hi c hc; exact ⟨.tail _ hm, hr⟩

-- The clauses of settings with columns of their own tell which of the settings are made.
theorem settings_eq
    (hn : columns.Nodup) (h : List.Forall₂ About columns settings)
    (h' : List.Forall₂ About columns settings') (he : settings.filterMap id = settings'.filterMap id) :
    settings = settings' := by
  induction h generalizing settings'
  case nil => cases h'; rfl
  case cons column o _ _ ho hs hi =>
    cases h' with
    | @cons _ o' _ _ ho' hs' =>
      have ⟨hc, hn⟩ := List.nodup_cons.mp hn
      cases o <;> cases o' <;> simp only [List.filterMap_cons, id] at he
      case none.none => rw [hi hn hs' he]
      case some.some =>
        have ⟨hc, he⟩ := List.cons.inj he
        rw [hc, hi hn hs' he]
      -- A clause of the first setting would have to come from a later one.
      case none.some c => exact absurd (ho'.column_eq c rfl ▸ (mem hs c (he ▸ .head _)).left) hc
      case some.none c => exact absurd (ho.column_eq c rfl ▸ (mem hs' c (he ▸ .head _)).left) hc

end About

namespace Season

theorem parse_eq_ok_iff :
    parse text = .ok season ↔ text = season ∧ Text.isNumeral text.toList := by
  unfold parse
  split <;> simp_all

end Season

namespace Selection

def columns : List String :=
  ["seasonId", "gameDate"]

theorem column_mem (s : Selection) : ∀ c ∈ s.clauses, c.column ∈ columns := by
  cases s <;> simp [clauses, columns, Clause.column, Clause.equal]

theorem clauses_injective {s s' : Selection} (h : s.clauses = s'.clauses) : s = s' := by
  cases s <;> cases s' <;> simp_all [clauses, Clause.equal, Date.toString_inj]

theorem clauses_ne_nil (s : Selection) : s.clauses ≠ [] := by
  cases s <;> simp [clauses]

end Selection

namespace Primary

variable {p q : Primary} {s s' : Selection} {text : String}

theorem regular_season {operator : String} (h : Season.parse text = .ok text')
    (ho : operator ∈ ["=", "<=", ">="]) :
    (Clause.relation "seasonId" operator (.bare text')).Regular := by
  have ⟨hs, hn⟩ := Season.parse_eq_ok_iff.mp h
  exact .relation (by decide) ho (hs ▸ hn)

theorem regular_date {operator : String} (ho : operator ∈ ["=", "<=", ">="]) :
    (Clause.relation "gameDate" operator (.quoted date)).Regular :=
  .relation (by decide) ho trivial

theorem selection_regular (h : p.selection = .ok s) : ∀ c ∈ s.clauses, c.Regular := by
  unfold selection at h
  split at h <;> simp only [bind_eq_ok_iff, pure, Except.pure, Except.ok.injEq, reduceCtorEq] at h
  case h_1 =>
    have ⟨first, hf, last, hl, hs⟩ := h
    simp [← hs, Selection.clauses, regular_season hf, regular_season hl]
  case h_2 =>
    have ⟨first, _, last, _, hs⟩ := h
    simp [← hs, Selection.clauses, regular_date]
  case h_3 =>
    have ⟨season, hp, hs⟩ := h
    simp [← hs, Selection.clauses, Clause.equal, regular_season hp]

theorem compile_eq_ok_iff :
    p.compile = .ok text ↔
      ∃ s, p.selection = .ok s ∧ .ofList (Clause.conjunction (s.clauses ++ p.predicates)) = text := by
  simp [compile, bind_eq_ok_iff, pure, Except.pure]

def columns : List String :=
  ["franchiseId", "opponentFranchiseId", "homeRoad", "decision", "gameTypeId", "active", "positionCode",
   "shootsCatches", "skaterFullName", "nationalityCode", "birthStateProvinceCode", "draftRound", "draftYear",
   "isRookie", "isInHallOfFame"]

theorem number_regular (n : Nat) : (number n).Regular := by
  simpa [number, Literal.Regular, Text.isNumeral, Text.decimal, Text.numeral_ne_nil] using
    fun _ => Text.isDigit_numeral

theorem equal_injective {f : α → Literal} (h : Function.Injective f) (column : String) :
    Function.Injective (Clause.equal column <| f ·) :=
  fun _ _ he => h (Clause.relation.inj he).right.right

theorem number_injective : Function.Injective number :=
  fun _ _ h => Text.decimal_injective (Literal.bare.inj h)

theorem flag_injective : Function.Injective Literal.flag := by
  intro a b h
  cases a <;> cases b <;> simp_all [Literal.flag]

theorem quoted_injective : Function.Injective Literal.quoted :=
  fun _ _ => Literal.quoted.inj

theorem contains_injective (column : String) : Function.Injective (Clause.contains column) :=
  fun _ _ h => (Clause.contains.inj h).right

theorem positionClause_injective : Function.Injective positionClause := by
  intro x y h
  cases x <;> cases y <;> simp_all [positionClause, Clause.equal]

theorem about_equal (f : α → Literal) (h : ∀ a, (f a).Regular) (hc : Clause.isColumn column.toList)
    (o : Option α) : About column (o.map fun a => .equal column (f a)) :=
  .map (f := fun a => .equal column (f a)) (fun _ => rfl) (fun a => .relation hc (by simp) (h a)) o

theorem about_number (f : α → Nat) (hc : Clause.isColumn column.toList) (o : Option α) :
    About column (o.map fun n => .equal column (number (f n))) :=
  about_equal _ (fun n => number_regular (f n)) hc o

theorem about_quoted (hc : Clause.isColumn column.toList) (o : Option String) :
    About column (o.map fun s => .equal column (.quoted s)) :=
  about_equal .quoted (fun _ => trivial) hc o

theorem about_flag (hc : Clause.isColumn column.toList) (o : Option Bool) :
    About column (o.map fun b => .equal column (.flag b)) :=
  about_equal .flag (fun _ => trivial) hc o

theorem about_contains (hc : Clause.isColumn column.toList) (o : Option String) :
    About column (o.map fun s => .contains column s) :=
  .map (f := fun s => .contains column s) (fun _ => rfl) (fun _ => .contains hc) o

theorem about_position (o : Option (OneOrMany String)) :
    About "positionCode" (o.map positionClause) := by
  refine .map (fun position => ?_) (fun position => ?_) o <;> cases position
  case refine_1.one  => rfl
  case refine_1.many => rfl
  case refine_2.one  => exact .relation (by decide) (by simp) trivial
  case refine_2.many => exact .oneOf

theorem about_settings (p : Primary) : List.Forall₂ About columns p.settings :=
  .cons (about_number _ (by decide) _) <| .cons (about_number _ (by decide) _) <|
  .cons (about_quoted (by decide) _) <| .cons (about_quoted (by decide) _) <|
  .cons (about_number _ (by decide) _) <| .cons (about_flag (by decide) _) <|
  .cons (about_position _) <| .cons (about_quoted (by decide) _) <|
  .cons (about_contains (by decide) _) <| .cons (about_quoted (by decide) _) <|
  .cons (about_quoted (by decide) _) <| .cons (about_number _ (by decide) _) <|
  .cons (about_quoted (by decide) _) <| .cons (about_flag (by decide) _) <|
  .cons (about_flag (by decide) _) .nil

theorem predicates_injective (h : p.predicates = q.predicates) :
    p = { q with
      season := p.season, startSeason := p.startSeason, endSeason := p.endSeason,
      startDate := p.startDate, endDate := p.endDate } := by
  have nat32 : Function.Injective fun n : UInt32 => number n.toNat :=
    number_injective.comp fun _ _ => UInt32.toNat.inj
  have nat8 : Function.Injective fun n : UInt8 => number n.toNat :=
    number_injective.comp fun _ _ => UInt8.toNat.inj
  have he := About.settings_eq (show columns.Nodup by decide) p.about_settings q.about_settings h
  simp only [settings, List.cons.injEq, and_true,
    (Option.map_injective (equal_injective nat32 _)).eq_iff,
    (Option.map_injective (equal_injective nat8 _)).eq_iff,
    (Option.map_injective (equal_injective quoted_injective _)).eq_iff,
    (Option.map_injective (equal_injective flag_injective _)).eq_iff,
    (Option.map_injective (contains_injective _)).eq_iff,
    (Option.map_injective positionClause_injective).eq_iff] at he
  cases p
  cases q
  simp_all

theorem filter_clauses (s : Selection) (p : Primary) :
    (s.clauses ++ p.predicates).filter (Selection.columns.contains ·.column) = s.clauses := by
  have hd : ∀ column ∈ columns, column ∉ Selection.columns := by decide
  have hs : s.clauses.filter (Selection.columns.contains ·.column) = s.clauses :=
    List.filter_eq_self.mpr fun c hc => List.contains_iff_mem.mpr (s.column_mem c hc)
  have hp : p.predicates.filter (Selection.columns.contains ·.column) = [] := by
    refine List.filter_eq_nil_iff.mpr fun c hc h => ?_
    have ⟨hm, _⟩ := About.mem p.about_settings c hc
    exact hd _ hm (List.contains_iff_mem.mp h)
  rw [List.filter_append, hs, hp, List.append_nil]

theorem clauses_injective
    (h : s.clauses ++ p.predicates = s'.clauses ++ q.predicates) :
    s = s' ∧ p.predicates = q.predicates := by
  have hs : s.clauses = s'.clauses := by rw [← filter_clauses s p, h, filter_clauses]
  exact ⟨Selection.clauses_injective hs, List.append_cancel_left (hs ▸ h)⟩

theorem regular_clauses (h : p.selection = .ok s) : ∀ c ∈ s.clauses ++ p.predicates, c.Regular := by
  intro c hc
  cases List.mem_append.mp hc
  case inl hc => exact selection_regular h c hc
  case inr hc => exact (About.mem p.about_settings c hc).right

theorem read?_compile (h : p.compile = .ok text) :
    ∃ s, p.selection = .ok s ∧ read? text.toList = some (s.clauses ++ p.predicates) := by
  have ⟨s, hs, ht⟩ := compile_eq_ok_iff.mp h
  refine ⟨s, hs, ?_⟩
  rw [← ht, String.toList_ofList]
  exact read?_conjunction (List.append_ne_nil_of_left_ne_nil s.clauses_ne_nil _) (regular_clauses hs)

-- A text comes from one selection and one choice of all the settings besides it, and reading it brings
-- both back.
theorem compile_injective (hp : p.compile = .ok text) (hq : q.compile = .ok text) :
    ∃ s, p.selection = .ok s ∧ q.selection = .ok s ∧
      read? text.toList = some (s.clauses ++ p.predicates) ∧
      p = { q with
        season := p.season, startSeason := p.startSeason, endSeason := p.endSeason,
        startDate := p.startDate, endDate := p.endDate } := by
  have ⟨s, hs, hr⟩ := read?_compile hp
  have ⟨s', hs', hr'⟩ := read?_compile hq
  have ⟨he, hc⟩ := clauses_injective (Option.some.inj (hr.symm.trans hr'))
  exact ⟨s, hs, he ▸ hs', hr, predicates_injective hc⟩

theorem compile_injective_quoted :
    let p := { Primary.ofSeason "20232024" with playerName := some "O'Neil' and active='0" }
    let q := { p with startDate := some "2024-01-01" }
    let text := "seasonId=20232024 and skaterFullName likeIgnoreCase '%O''Neil'' and active=''0%'"
    p.compile = .ok text ∧ q.compile = .ok text ∧ q.selection = .ok (.season "20232024") ∧
      read? text.toList = some
        [.equal "seasonId" (.bare "20232024"), .contains "skaterFullName" "O'Neil' and active='0"] := by
  intro p q text
  have hp : p.compile = .ok text := rfl
  have hq : q.compile = .ok text := rfl
  have ⟨s, hs, hs', hr, _⟩ := compile_injective hp hq
  cases hs
  exact ⟨hp, hq, hs', hr⟩

end Primary

end StatsQuery
