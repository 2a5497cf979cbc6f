import StatsQuery.CommandLine.Command
import StatsQuery.Proofs.Error.Steps
import StatsQuery.Proofs.Text.Runs

namespace StatsQuery.CommandLine

def Plain (arg : String) : Prop :=
  arg.toList.head? = some '-' → arg = "-"

instance : DecidablePred Plain :=
  fun _ => inferInstanceAs (Decidable (_ → _))

def apart (name value : String) : List String :=
  ["--" ++ name, value]

def joined (name value : String) : List String :=
  ["--" ++ name ++ "=" ++ value]

def attached : Option String → List Char
  | none       => []
  | some value => '=' :: value.toList

structure Matches.Admits (m : Matches) (name value : String) (kind : ValueKind) (repeats : Bool) : Prop where
  checked : kind.check value = .ok ()
  fresh   : repeats ∨ ¬m.has name

structure CommandSpec.Takes (c : CommandSpec) (name : String) (kind : ValueKind) (repeats : Bool) : Prop where
  listed : ∃ short, c.options.find? (·.name = name) = some ⟨name, if repeats then .multiple kind else .single kind, short⟩
  proper : name ≠ "" ∧ name ≠ "help" ∧ '=' ∉ name.toList

namespace Matches

variable {m : Matches}

theorem get?_eq_head? (m : Matches) (name : String) : m.get? name = (m.all name).head? := by
  unfold get? all
  induction m.values with
  | nil          => rfl
  | cons v vs hi =>
    rw [List.lookup_cons, List.filter_cons]
    cases h : name == v.1 <;> simp_all [Bool.beq_comm (a := v.1)]

theorem Admits.take (h : m.Admits name value kind repeats) :
    m.take name value kind repeats = .ok ⟨m.values ++ [(name, value)]⟩ := by
  have hf : (!repeats && m.has name) = false := by
    cases h.fresh with
    | inl hr => simp [hr]
    | inr hn => simp [hn]
  simp [Matches.take, hf, h.checked, bind, Except.bind, pure, Except.pure]

end Matches

namespace Progress

variable {c : CommandSpec} {p q q' : Progress} {name value : String} {kind : ValueKind} {repeats : Bool}

def adding (q : Progress) (values : List (String × String)) : Progress :=
  ⟨⟨q.matched.values ++ values⟩, .nothing, q.places⟩

theorem adding_nil (h : q.pending = .nothing) : q.adding [] = q := by
  simp [adding, ← h]

theorem adding_adding (q : Progress) (vs ws : List (String × String)) : (q.adding vs).adding ws = q.adding (vs ++ ws) := by
  simp [adding]

theorem of_settle (h : p.settle = .ok q) :
    q.pending = .nothing ∧ p.places = q.places ∧ ∀ arg, p.plain arg = p.place arg := by
  unfold settle at h
  unfold plain
  split at h
  case h_1 hp =>
    cases h
    exact ⟨hp, rfl, fun _ => by rw [hp]⟩
  case h_2 => contradiction
  case h_3 hp =>
    have ⟨_, _, h⟩ := bind_eq_ok_iff.mp h
    cases h
    exact ⟨rfl, rfl, fun _ => by rw [hp]⟩

theorem settle_given (h : q.matched.Admits name value kind repeats) (places : List PlaceSpec) :
    settle ⟨q.matched, .given name value kind repeats, places⟩ = .ok (adding ⟨q.matched, .nothing, places⟩ [(name, value)]) := by
  rw [settle]
  dsimp only
  rw [h.take]
  rfl

section Arguments

variable {args : List String}

theorem run_plain (h : Plain arg) : run c p (arg :: args) = (p.plain arg).bind fun p => run c p args := by
  have hp (d : Char) (ds : List Char) : arg.toList ≠ '-' :: d :: ds := by
    intro ha
    cases h (by simp [ha])
    cases ha
  rw [run]
  split
  case h_1 ha => exact absurd ha (hp _ _)
  case h_2 ha => exact absurd ha (hp _ _)
  case h_3 ha => exact absurd ha (hp _ _)
  case h_4    => rfl

theorem long_eq (h : c.Takes name kind repeats) (value : Option String) :
    p.long c (name.toList ++ attached value) = p.valued name kind repeats value := by
  have ⟨_, hf⟩ := h.listed
  have ho (arg : List Char) (ha : arg.span (· ≠ '=') = (name.toList, attached value)) :
      p.long c arg = p.valued name kind repeats value := by
    cases value <;> cases repeats <;>
      simp only [long, ha, attached, String.ofList_toList, if_neg h.proper.right.left, hf] <;> rfl
  refine ho _ <| span_append (forall_ne_of_not_mem h.proper.right.right) ?_
  cases value <;> simp [attached]

theorem run_valued
    (h : c.Takes name kind repeats) (value : Option String) (ha : arg.toList = '-' :: '-' :: (name.toList ++ attached value)) :
    run c p (arg :: args) = (p.valued name kind repeats value).bind fun p => run c p args := by
  have hn : name.toList ++ attached value ≠ [] := by simp [h.proper]
  rw [← long_eq h, run]
  split <;> simp_all

theorem run_apart (h : c.Takes name kind repeats) (hp : p.settle = .ok q) :
    run c p (apart name value ++ args) = run c { q with pending := .awaiting name kind repeats } (value :: args) := by
  rw [apart, List.cons_append, run_valued h none (by simp [attached]), valued, hp]
  rfl

-- A letter that no option has stands for none, whether or not a value is awaited.
theorem run_unknown
    (ha : arg.toList = '-' :: letter :: cs) (hl : letter ≠ '-' ∧ letter ≠ 'h') (ho : ∀ o ∈ c.options, o.short ≠ some letter) :
    run c p (arg :: args) = .error .unknownArgument := by
  have hf : c.options.find? (·.short = some letter) = none := by simpa using ho
  have hs : p.short c letter cs = .error .unknownArgument := by simp [short, hl, hf]
  have hn : '-' ≠ letter := Ne.symm hl.left
  rw [run]
  split <;> simp_all [Except.bind]

end Arguments

-- Arguments that lead from what has been read to what has been read then, whatever comes after them.
def Leads (c : CommandSpec) (args : List String) (q q' : Progress) : Prop :=
  ∀ p, p.settle = .ok q → ∃ p', p'.settle = .ok q' ∧ ∀ rest, run c p (args ++ rest) = run c p' rest

namespace Leads

theorem append (h : Leads c args q q') (h' : Leads c args' q' q'') : Leads c (args ++ args') q q'' := by
  intro p hp
  have ⟨p', hp', hr⟩ := h p hp
  have ⟨p'', hp'', hr'⟩ := h' p' hp'
  exact ⟨p'', hp'', fun rest => by rw [List.append_assoc, hr, hr']⟩

theorem flatMap {as : List α} {args : α → List String} {values : α → List (String × String)}
    (h : ∀ a ∈ as, ∀ q, Leads c (args a) q (q.adding (values a))) (q : Progress) :
    Leads c (as.flatMap args) q (q.adding (as.flatMap values)) := by
  induction as generalizing q with
  | nil          => exact fun p hp => ⟨p, (adding_nil (of_settle hp).left).symm ▸ hp, fun _ => rfl⟩
  | cons a as hi =>
    have ⟨ha, hs⟩ := List.forall_mem_cons.mp h
    rw [List.flatMap_cons, List.flatMap_cons, ← adding_adding]
    exact (ha q).append (hi hs _)

theorem apart (ht : c.Takes name kind repeats) (hv : Plain value) (ha : q.matched.Admits name value kind repeats) :
    Leads c (apart name value) q (q.adding [(name, value)]) := by
  intro p hp
  refine ⟨_, settle_given ha q.places, fun rest => ?_⟩
  rw [run_apart ht hp, run_plain hv]
  rfl

theorem joined (ht : c.Takes name kind repeats) (ha : q.matched.Admits name value kind repeats) :
    Leads c (joined name value) q (q.adding [(name, value)]) := by
  intro p hp
  refine ⟨q.adding [(name, value)], rfl, fun rest => ?_⟩
  rw [CommandLine.joined, List.singleton_append, run_valued ht (some value) (by simp [attached]), valued, hp]
  simp [ha.take, adding, (of_settle hp).left, bind, Except.bind, pure, Except.pure]

theorem place {spec : PlaceSpec} (hq : q.places = spec :: specs) (hv : Plain value)
    (ha : q.matched.Admits spec.name value spec.kind false) :
    Leads c [value] q (adding ⟨q.matched, .nothing, specs⟩ [(spec.name, value)]) := by
  intro p hp
  refine ⟨_, settle_given ha specs, fun rest => ?_⟩
  have ⟨_, hs, hl⟩ := of_settle hp
  rw [List.singleton_append, run_plain hv, hl, Progress.place, hs, hq]
  dsimp only
  rw [hp]
  rfl

theorem read (h : Leads c args ⟨{}, .nothing, c.places⟩ q) (hq : q.places = []) : c.read args = .ok q.matched := by
  have ⟨p, hp, hr⟩ := h ⟨{}, .nothing, c.places⟩ rfl
  rw [CommandSpec.read, ← List.append_nil args, hr, run, finish, hp]
  simp [hq, bind, Except.bind, pure, Except.pure]

end Leads

end Progress

end StatsQuery.CommandLine
