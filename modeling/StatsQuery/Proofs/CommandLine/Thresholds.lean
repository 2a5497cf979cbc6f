import StatsQuery.Proofs.CommandLine.Reading
import StatsQuery.Proofs.Expression.Threshold

namespace StatsQuery

open CommandLine (Plain apart joined)

def Fact.ofThresholds (ts : List Threshold) : Fact where
  property   := some (.many (ts.map (·.property)))
  comparator := some (.many (ts.map (·.comparator)))
  value      := some (.many (ts.map (·.value)))

theorem Fact.lists_ofThresholds (ts : List Threshold) : (Fact.ofThresholds ts).Lists ts :=
  ⟨rfl, rfl, rfl⟩

theorem Fact.wellFormed_of_compile (h : (Fact.ofThresholds ts).compile = .ok filter) : ∀ t ∈ ts, t.WellFormed := by
  have ⟨_, ⟨hl, hw⟩, _⟩ := compile_eq_ok_iff.mp h
  exact (lists_ofThresholds ts).wellFormed_iff.mp <| hl.wellFormed_iff.mpr hw

namespace Threshold

def Negative (t : Threshold) : Prop :=
  t.value.toList.head? = some '-'

instance : DecidablePred Negative :=
  fun _ => inferInstanceAs (Decidable (_ = _))

def parts (t : Threshold) : List (String × String) :=
  [("property", t.property), ("comparator", t.comparator), ("value", t.value)]

def comparison (t : Threshold) : List String :=
  apart "property" t.property ++ apart "comparator" t.comparator

def arguments (t : Threshold) : List String :=
  t.comparison ++ apart "value" t.value

def joinedArguments (t : Threshold) : List String :=
  t.comparison ++ joined "value" t.value

variable {t : Threshold}

theorem WellFormed.plain (h : t.WellFormed) : Plain t.property ∧ Plain t.comparator := by
  constructor
  case left =>
    intro hh
    have hp := h.property
    generalize t.property.toList = cs at hp hh
    cases hp with
    | letter hc _ =>
      cases hh
      contradiction
  case right =>
    have hc : ∀ o ∈ Expression.Grammar.operators, Plain o := by decide
    exact hc _ h.comparator

theorem plain_of_not_negative (h : ¬t.Negative) : Plain t.value :=
  fun hh => absurd hh h

theorem WellFormed.value_of_negative (h : t.WellFormed) (hn : t.Negative) :
    ∃ c cs, t.value.toList = '-' :: c :: cs ∧ (c.isDigit ∨ c = '.') := by
  have hv := h.value
  unfold Negative at hn
  generalize t.value.toList = cs at hv hn
  cases hv with
  | plain hd =>
    have := hd.plain '-' <| List.mem_of_mem_head? hn
    contradiction
  | minus hd =>
    have ⟨c, cs, hc⟩ := List.exists_cons_of_ne_nil hd.ne_nil
    exact ⟨c, cs, congrArg _ hc, hd.plain c <| hc ▸ List.mem_cons_self⟩

end Threshold

namespace CommandLine

open Threshold (parts comparison arguments joinedArguments)

def reportLine (key report season : String) (options : List String) : List String :=
  "report" :: key :: report :: apart "season" season ++ options

def Conveys (args : List String) (filter : String) : Prop :=
  ∃ c q, Command.ofArguments args = .ok (.report c) ∧ c.toQuery = .ok q ∧ q.fact.compile = .ok filter

namespace ReportCommand

open Progress (Leads adding_adding)

variable {k report season : String} {key : ReportKey} {q : Progress} {t : Threshold} {ts : List Threshold}

def onThresholds (key : ReportKey) (report season : String) (ts : List Threshold) : ReportCommand where
  key
  report
  expression := {
    season     := some season
    property   := ts.map (·.property)
    comparator := ts.map (·.comparator)
    value      := ts.map (·.value) }

theorem listOf_oneOrMany (ss : List String) : OneOrMany.listOf (ExpressionOptions.oneOrMany ss) = ss :=
  match ss with
  | []          => rfl
  | [_]         => rfl
  | _ :: _ :: _ => rfl

theorem toQuery_onThresholds (key : ReportKey) (report season : String) (ts : List Threshold) :
    ∃ q, (onThresholds key report season ts).toQuery = .ok q ∧ q.fact.compile = (Fact.ofThresholds ts).compile := by
  refine ⟨_, rfl, ?_⟩
  simp only [onThresholds, ExpressionOptions.toFact, Fact.compile, Fact.thresholds, listOf_oneOrMany]
  rfl

def matched (k report season : String) (ts : List Threshold) : Matches :=
  ⟨[("key", k), ("report", report), ("season", season)] ++ ts.flatMap parts⟩

theorem all_matched (k report season name : String) (ts : List Threshold) :
    (matched k report season ts).all name =
      ([("key", k), ("report", report), ("season", season)].filter (·.1 == name)).map (·.2) ++
        ts.flatMap fun t => (t.parts.filter (·.1 == name)).map (·.2) := by
  simp only [Matches.all, matched, List.filter_append, List.map_append, List.filter_flatMap, List.map_flatMap]

theorem ofMatches_matched (h : ReportKey.parse k = .ok key) (report season : String) (ts : List Threshold) :
    ofMatches (matched k report season ts) = onThresholds key report season ts := by
  have hs (f : Threshold → String) : ts.flatMap (fun t => [f t]) = ts.map f := List.map_eq_flatMap.symm
  have hn : ts.flatMap (fun _ => ([] : List String)) = [] := by simp
  simp [ofMatches, onThresholds, ExpressionOptions.ofMatches, ShapingOptions.ofMatches, retryOfMatches, Matches.has,
    Matches.flag?, Matches.nat?, Matches.get?_eq_head?, all_matched, parts, h, hs, hn, Except.toOption]

theorem takes_season : spec.Takes "season" .text false :=
  ⟨⟨_, rfl⟩, by decide⟩

theorem takes_part (name : String) (h : name ∈ ["property", "comparator", "value"]) : spec.Takes name .text true := by
  simp only [List.mem_cons, List.not_mem_nil, or_false] at h
  rcases h with rfl | rfl | rfl <;> exact ⟨⟨_, rfl⟩, by decide⟩

theorem plain_of_parse (h : ReportKey.parse k = .ok key) : Plain k := by
  intro hk
  have hl : (Text.lowerCase k).toList.head? = some '-' := by simp [Text.lowerCase, Text.lower, hk]
  unfold ReportKey.parse at h
  split at h <;> simp_all

theorem leads_start (hk : ReportKey.parse k = .ok key) (hr : Plain report) (hs : Plain season) :
    Leads spec (k :: report :: apart "season" season) ⟨{}, .nothing, spec.places⟩ ⟨matched k report season [], .nothing, []⟩ := by
  have hc : ValueKind.check .reportKey k = .ok () := by simp [ValueKind.check, hk, Except.isOk, Except.toBool]
  have hp : (⟨{}, .nothing, spec.places⟩ : Progress).places = [⟨"key", .reportKey⟩, ⟨"report", .text⟩] := rfl
  have named : Leads spec [k] ⟨{}, .nothing, spec.places⟩ ⟨⟨[("key", k)]⟩, .nothing, [⟨"report", .text⟩]⟩ :=
    .place hp (plain_of_parse hk) ⟨hc, .inr (by simp [Matches.has, Matches.get?])⟩
  have hq : (⟨⟨[("key", k)]⟩, .nothing, [⟨"report", .text⟩]⟩ : Progress).places = [⟨"report", .text⟩] := rfl
  have placed : Leads spec [report] ⟨⟨[("key", k)]⟩, .nothing, [⟨"report", .text⟩]⟩
      ⟨⟨[("key", k), ("report", report)]⟩, .nothing, []⟩ :=
    .place hq hr ⟨rfl, .inr (by simp [Matches.has, Matches.get?])⟩
  exact named.append <| placed.append <| .apart takes_season hs ⟨rfl, .inr (by simp [Matches.has, Matches.get?])⟩

theorem leads_comparison (h : t.WellFormed) :
    Leads spec t.comparison q (q.adding [("property", t.property), ("comparator", t.comparator)]) := by
  have hp : Leads spec (apart "property" t.property) q (q.adding [("property", t.property)]) :=
    .apart (takes_part "property" (by decide)) h.plain.left ⟨rfl, .inl rfl⟩
  have hc := hp.append <| .apart (takes_part "comparator" (by decide)) h.plain.right ⟨rfl, .inl rfl⟩
  rwa [adding_adding] at hc

theorem leads_arguments (h : t.WellFormed) (hn : ¬t.Negative) : Leads spec t.arguments q (q.adding t.parts) := by
  have hv := (leads_comparison (q := q) h).append <|
    .apart (takes_part "value" (by decide)) (Threshold.plain_of_not_negative hn) ⟨rfl, .inl rfl⟩
  rwa [adding_adding] at hv

theorem leads_joinedArguments (h : t.WellFormed) : Leads spec t.joinedArguments q (q.adding t.parts) := by
  have hv : Leads spec t.joinedArguments q _ :=
    (leads_comparison h).append <| .joined (takes_part "value" (by decide)) ⟨rfl, .inl rfl⟩
  rwa [adding_adding] at hv

-- A negative value is taken for an option that there is not, whatever comes after it.
theorem run_negative (h : t.WellFormed) (hn : t.Negative) {p : Progress} (hp : p.settle = .ok q) (rest : List String) :
    p.run spec (t.arguments ++ rest) = .error .unknownArgument := by
  have ⟨letter, cs, hv, hl⟩ := h.value_of_negative hn
  have ⟨p', hp', hr⟩ := leads_comparison h p hp
  have ho : ∀ o ∈ spec.options, o.short.all fun c => !c.isDigit && c != '.' := by decide
  rw [arguments, List.append_assoc, hr, Progress.run_apart (takes_part "value" (by decide)) hp']
  refine Progress.run_unknown hv ?_ fun o hm he => ?_
  · constructor <;> rintro rfl <;> simp at hl
  · have := ho o hm
    simp_all

theorem run_some_negative (hw : ∀ t ∈ ts, t.WellFormed) (hn : ∃ t ∈ ts, t.Negative) {p : Progress} (hp : p.settle = .ok q) :
    p.run spec (ts.flatMap arguments) = .error .unknownArgument := by
  induction ts generalizing p q with
  | nil          => simp at hn
  | cons t ts hi =>
    have ⟨ht, hs⟩ := List.forall_mem_cons.mp hw
    rw [List.flatMap_cons]
    by_cases hv : t.Negative
    case pos => exact run_negative ht hv hp _
    case neg =>
      have ⟨p', hp', hr⟩ := leads_arguments ht hv p hp
      rw [hr]
      exact hi hs (by simpa [hv] using hn) hp'

end ReportCommand

section Conveying

open ReportCommand Progress

variable {k report season : String} {key : ReportKey} {ts : List Threshold} {filter : String}

theorem ofArguments_reportLine (k report season : String) (options : List String) :
    Command.ofArguments (reportLine k report season options) =
      (spec.read (k :: report :: apart "season" season ++ options)).bind fun m => .ok (.report (ofMatches m)) :=
  rfl

theorem conveys_of_leads {args : Threshold → List String}
    (hk : ReportKey.parse k = .ok key) (hr : Plain report) (hs : Plain season) (hc : (Fact.ofThresholds ts).compile = .ok filter)
    (ha : ∀ t ∈ ts, ∀ q, Leads spec (args t) q (q.adding t.parts)) :
    Conveys (reportLine k report season (ts.flatMap args)) filter := by
  have hl : spec.read _ = .ok (matched k report season ts) :=
    ((leads_start hk hr hs).append <| Leads.flatMap ha _).read rfl
  have ⟨q, hq, hf⟩ := toQuery_onThresholds key report season ts
  refine ⟨onThresholds key report season ts, q, ?_, hq, hf.trans hc⟩
  rw [ofArguments_reportLine, hl, ← ofMatches_matched hk]
  rfl

-- With the values apart, a line conveys its thresholds exactly if no value is negative, and is refused otherwise. With each
-- value in one argument with its option, every line conveys its thresholds.
theorem conveys_thresholds_iff
    (hk : ReportKey.parse k = .ok key) (hr : Plain report) (hs : Plain season) (hc : (Fact.ofThresholds ts).compile = .ok filter) :
    (Conveys (reportLine k report season (ts.flatMap arguments)) filter ↔ ∀ t ∈ ts, ¬t.Negative) ∧
    ((∃ t ∈ ts, t.Negative) →
      Command.ofArguments (reportLine k report season (ts.flatMap arguments)) = .error .unknownArgument) ∧
    Conveys (reportLine k report season (ts.flatMap joinedArguments)) filter := by
  have hw := Fact.wellFormed_of_compile hc
  have hn (h : ∃ t ∈ ts, t.Negative) :
      Command.ofArguments (reportLine k report season (ts.flatMap arguments)) = .error .unknownArgument := by
    have ⟨p, hp, hl⟩ := leads_start hk hr hs ⟨{}, .nothing, spec.places⟩ rfl
    rw [ofArguments_reportLine, CommandSpec.read, hl, run_some_negative hw h hp]
    rfl
  refine ⟨⟨?plain, ?conveyed⟩, hn, ?joined⟩
  case plain =>
    rintro ⟨c, _, hc, _⟩ t ht hv
    have he := hc.symm.trans <| hn ⟨t, ht, hv⟩
    contradiction
  case conveyed => exact fun hv => conveys_of_leads hk hr hs hc fun t ht _ => leads_arguments (hw t ht) (hv t ht)
  case joined   => exact conveys_of_leads hk hr hs hc fun t ht _ => leads_joinedArguments (hw t ht)

theorem conveys_thresholds_iff_negative :
    let points : Threshold := ⟨"pointsPerGame", ">=", "0.75"⟩
    let plusMinus : Threshold := ⟨"plusMinus", ">", "-5"⟩
    let line := reportLine "Skaters" "summary" "20232024"
    let filter := "gamesPlayed>=0 and pointsPerGame>=0.75 and plusMinus>-5"
    (Fact.ofThresholds [points, plusMinus]).compile = .ok filter ∧
      Conveys (line points.arguments) "gamesPlayed>=0 and pointsPerGame>=0.75" ∧
      Command.ofArguments (line (points.arguments ++ plusMinus.arguments)) = .error .unknownArgument ∧
      Conveys (line (points.joinedArguments ++ plusMinus.joinedArguments)) filter := by
  intro points plusMinus line filter
  have hk : ReportKey.parse "Skaters" = .ok .skater := rfl
  have hr : Plain "summary" := by decide
  have hs : Plain "20232024" := by decide
  have hp : (Fact.ofThresholds [points]).compile = .ok "gamesPlayed>=0 and pointsPerGame>=0.75" := by decide +kernel
  have hc : (Fact.ofThresholds [points, plusMinus]).compile = .ok filter := by decide +kernel
  have ⟨_, hn, hj⟩ := conveys_thresholds_iff hk hr hs hc
  exact ⟨hc, (conveys_thresholds_iff hk hr hs hp).left.mpr (by decide), hn (by decide), hj⟩

theorem reportLine_not_conveys :
    let t : Threshold := ⟨"plusMinus", ">=", "-5"⟩
    let line := ["report", "skater", "summary", "--season", "20232024", "--property", "plusMinus", "--comparator", ">=",
      "--value", "-5"]
    (Fact.ofThresholds [t]).compile = .ok "gamesPlayed>=0 and plusMinus>=-5" ∧
      reportLine "skater" "summary" "20232024" t.arguments = line ∧
      Command.ofArguments line = .error .unknownArgument ∧ ∀ filter, ¬Conveys line filter := by
  intro t line
  have hl : Command.ofArguments line = .error .unknownArgument := rfl
  refine ⟨by decide +kernel, by decide, hl, fun _ ⟨_, _, hc, _⟩ => ?_⟩
  have := hl.symm.trans hc
  contradiction

end Conveying

end CommandLine

end StatsQuery
