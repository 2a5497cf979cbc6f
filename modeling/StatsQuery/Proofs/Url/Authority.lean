import StatsQuery.Proofs.Url.Normal

namespace StatsQuery.Url

section Parts

variable {a : Authority} {scheme cs ds : List Char}

theorem splitUserinfo_append (h : '@' ∉ ds) : splitUserinfo (cs ++ '@' :: ds) = (some cs, ds) := by
  have hs : (cs ++ '@' :: ds).reverse.span (· ≠ '@') = (ds.reverse, '@' :: cs.reverse) := by
    rw [List.reverse_append, List.reverse_cons, List.append_assoc, List.singleton_append]
    exact span_append (forall_ne_of_not_mem (by simpa using h)) (by simp)
  simp only [splitUserinfo, hs, List.reverse_reverse]

theorem splitUserinfo_of_not_mem (h : '@' ∉ cs) : splitUserinfo cs = (none, cs) := by
  have hs : (cs.reverse ++ []).span (· ≠ '@') = (cs.reverse, []) :=
    span_append (forall_ne_of_not_mem (by simpa using h)) (by simp)
  rw [List.append_nil] at hs
  simp only [splitUserinfo, hs, List.reverse_reverse]

theorem splitPort_append {brackets : Bool} (h : ∀ c ∈ cs, c ≠ '[' ∧ c ≠ ']' ∧ (c = ':' → brackets)) :
    splitPort brackets (cs ++ ds) = (cs ++ (splitPort brackets ds).1, (splitPort brackets ds).2) := by
  induction cs with
  | nil => rfl
  | cons c cs hi =>
    have ⟨ho, hc, hb⟩ := h c List.mem_cons_self
    have hn : ¬(c = ':' ∧ !brackets) := fun ⟨e, hn⟩ => by simp [hb e] at hn
    rw [List.cons_append, splitPort, if_neg hn, if_neg ho, if_neg hc,
      hi fun d hd => h d <| List.mem_cons_of_mem _ hd]
    rfl

theorem ne_of_isAllowed (h : Host.isAllowed c) (hd : Host.isAllowed d = false) : c ≠ d :=
  fun e => by simp_all

theorem splitPort_written (h : Host.Written cs) :
    splitPort false (cs ++ ds) = (cs ++ (splitPort false ds).1, (splitPort false ds).2) := by
  cases h with
  | named h =>
    refine splitPort_append fun c hc => ?_
    have hn := fun d hd => ne_of_isAllowed (d := d) (h c hc) hd
    exact ⟨hn '[' rfl, hn ']' rfl, fun e => absurd e (hn ':' rfl)⟩
  | @bracketed cs h =>
    have hp : ∀ c ∈ cs, c ≠ '[' ∧ c ≠ ']' ∧ (c = ':' → true) := fun c hc =>
      (h c hc).elim (fun e => by simp [e]) fun ha => ⟨ne_of_isAllowed ha rfl, ne_of_isAllowed ha rfl, fun _ => rfl⟩
    have ho : splitPort false ('[' :: (cs ++ ']' :: ds)) =
        ('[' :: (splitPort true (cs ++ ']' :: ds)).1, (splitPort true (cs ++ ']' :: ds)).2) := rfl
    have hc : splitPort true (']' :: ds) = (']' :: (splitPort false ds).1, (splitPort false ds).2) := rfl
    rw [List.append_assoc, List.singleton_append, List.cons_append, ho, splitPort_append hp, hc]
    simp

theorem splitPort_marked (port : Option Nat) :
    splitPort false (port.elim [] fun n => ':' :: Text.numeral n) = ([], port.map Text.numeral) := by
  cases port <;> rfl

theorem readPort_numeral {port : Option Nat} (h : ∀ n ∈ port, n ≤ 65535 ∧ defaultPort? scheme ≠ some n) :
    readPort scheme ((port.map Text.numeral).getD []) = .ok port := by
  cases port with
  | none   => rfl
  | some n =>
    have ⟨hn, hd⟩ := h n rfl
    have he : (Text.numeral n).isEmpty = false := by simp [Text.numeral, Nat.toDigits_ne_nil]
    simp only [Option.map_some, Option.getD_some, readPort, he, Text.numeral?_numeral, if_neg hd,
      if_neg (Nat.not_lt.mpr hn), Bool.false_eq_true, if_false]

end Parts

section Reading

variable {a : Authority} {u : Url} {scheme rest : List Char}

def credentials (a : Authority) : List Char :=
  a.username ++ if a.password.isEmpty then [] else ':' :: a.password

theorem span_credentials (h : a.Normal scheme) :
    (credentials a).span (· ≠ ':') = (a.username, if a.password.isEmpty then [] else ':' :: a.password) := by
  refine span_append (fun c hc => decide_eq_true fun e => ?_) ?_
  · exact absurd (e ▸ h.username c hc) (by decide)
  · split <;> simp

theorem credentials_isEmpty (a : Authority) :
    (credentials a).isEmpty = (a.username.isEmpty && a.password.isEmpty) := by
  unfold credentials
  cases a.password <;> simp

theorem not_mem_behindSign (h : a.Normal scheme) : '@' ∉ a.host ++ a.port.elim [] fun n => ':' :: Text.numeral n := by
  have ha : ∀ c, Host.isAllowed c → c ≠ '@' := fun _ ha => ne_of_isAllowed ha rfl
  refine List.not_mem_append (fun hm => ?_) ?_
  · exact h.host.forall_mem ha (by decide) '@' hm rfl
  · cases a.port with
    | none   => exact List.not_mem_nil
    | some n => exact List.not_mem_cons_of_ne_of_not_mem (by decide) fun hm => ha _ (Host.isAllowed_numeral n _ hm) rfl

theorem splitUserinfo_text (h : a.Normal scheme) :
    splitUserinfo a.text =
      (if (credentials a).isEmpty then none else some (credentials a),
       a.host ++ a.port.elim [] fun n => ':' :: Text.numeral n) := by
  unfold Authority.text
  rw [← credentials_isEmpty]
  by_cases he : (credentials a).isEmpty
  case pos =>
    simp only [he, if_true, List.nil_append]
    exact splitUserinfo_of_not_mem <| not_mem_behindSign h
  case neg =>
    simp only [he, Bool.false_eq_true, if_false, List.append_assoc]
    rw [← List.append_assoc a.username]
    exact splitUserinfo_append <| not_mem_behindSign h

theorem span_digits (port : Option Nat) :
    ((port.map Text.numeral).getD []).span (· ≠ '\\') = ((port.map Text.numeral).getD [], []) := by
  cases port with
  | none   => rfl
  | some n =>
    have hn : ∀ c ∈ Text.numeral n, decide (c ≠ '\\') := fun c hc =>
      decide_eq_true <| ne_of_isAllowed (Host.isAllowed_numeral n c hc) rfl
    have hs : (Text.numeral n ++ []).span (· ≠ '\\') = (Text.numeral n, []) := span_append hn (by simp)
    rwa [List.append_nil] at hs

theorem readAuthority_text (h : a.Normal scheme) (hr : isRemote scheme) (rest : List Char) :
    readAuthority scheme a.text rest = (Host.domain a.host).map fun host => ({ a with host := host }, rest) := by
  have hs : isSpecial scheme = true := (Bool.and_eq_true_iff.mp hr).left
  have hh : a.host.isEmpty = false := List.isEmpty_eq_false_iff.mpr (h.remote hr)
  have hi : (if (credentials a).isEmpty then none else some (credentials a)).getD [] = credentials a := by
    split
    case isTrue he => exact (List.isEmpty_iff.mp he).symm
    case isFalse   => rfl
  unfold readAuthority
  simp only [splitUserinfo_text h, splitPort_written h.host, splitPort_marked, List.append_nil, hs, hh, hi, if_true,
    span_digits, readPort_numeral h.port, span_credentials h, Bool.false_and, Bool.false_eq_true, if_false]
  cases Host.domain a.host with
  | error => rfl
  | ok _  =>
    have hu := Percent.encode_eq_self h.username
    have hp := Percent.encode_eq_self h.password
    cases hw : a.password <;> simp_all [bind, Except.bind, pure, Except.pure, Except.map]

end Reading

section Origin

variable {a : Authority} {u : Url}

def origin (u : Url) : List Char × Option Authority :=
  (u.scheme, u.authority)

def behindAuthority (u : Url) : List Char :=
  u.path.text ++ u.query.elim [] ('?' :: ·) ++ u.fragment.elim [] ('#' :: ·)

theorem text_eq (ha : u.authority = some a) :
    u.text = u.scheme ++ ':' :: ('/' :: '/' :: (a.text ++ u.behindAuthority)) := by
  simp only [text, withoutFragment, beforePath, behindAuthority, ha, List.append_assoc, List.cons_append]
  rfl

theorem behindAuthority_eq (h : u.path = .segments (s :: ss)) : ∃ cs, u.behindAuthority = '/' :: cs :=
  ⟨_, by rw [behindAuthority, h]; rfl⟩

def isBoundary (c : Char) : Bool :=
  isSlash true c || c == '?' || c == '#'

theorem isBoundary_of_mem_head? (h : u.Normal) : ∀ c ∈ u.behindAuthority.head?, isBoundary c := by
  have ⟨ss, hp, _⟩ := h.segments
  unfold behindAuthority
  rw [hp]
  cases ss <;> cases u.query <;> cases u.fragment <;> simp [UrlPath.text, isBoundary, isSlash]

theorem not_isBoundary_of_mem {scheme : List Char} (h : a.Normal scheme) : ∀ c ∈ a.text, isBoundary c = false := by
  refine h.forall_mem_text (fun c hi => ?_) (fun c hh => ?_) (by decide)
  · have hn (d : Char) (hd : Percent.inUserinfo d) : c ≠ d := fun e => by simp_all
    simp [isBoundary, isSlash, hn '/' rfl, hn '\\' rfl, hn '?' rfl, hn '#' rfl]
  · have hn (d : Char) (hd : Host.isAllowed d = false) : c ≠ d := ne_of_isAllowed hh hd
    simp [isBoundary, isSlash, hn '/' rfl, hn '\\' rfl, hn '?' rfl, hn '#' rfl]

theorem splitAuthority_text (h : u.Normal) (ha : u.authority = some a) :
    splitAuthority true (a.text ++ u.behindAuthority) = (a.text, u.behindAuthority) := by
  have hi : ∀ c ∈ a.text, !isBoundary c := fun c hc => by simp [not_isBoundary_of_mem (h.authority a ha) c hc]
  have hb : ∀ c ∈ u.behindAuthority.head?, (!isBoundary c) = false := fun c hc => by
    simp [isBoundary_of_mem_head? h c hc]
  exact span_append hi hb

theorem dropWhile_slashes (h : u.Normal) (hr : isRemote u.scheme) (ha : u.authority = some a) :
    ('/' :: '/' :: (a.text ++ u.behindAuthority)).dropWhile (isSlash true) = a.text ++ u.behindAuthority := by
  have hs : ∀ c ∈ ['/', '/'], isSlash true c := by simp [isSlash]
  refine (while_append (a.text ++ u.behindAuthority) hs fun c hc => ?_).right
  have hn : a.text ≠ [] := by simp [Authority.text, (h.authority a ha).remote hr]
  obtain ⟨d, ds, hd⟩ := List.exists_cons_of_ne_nil hn
  rw [hd] at hc
  cases hc
  have := not_isBoundary_of_mem (h.authority a ha) c (hd ▸ List.mem_cons_self)
  simp_all [isBoundary]

-- Read again, the text of a URL leads where the URL leads, with the host as its text is read.
theorem Normal.origin_parse_text (h : u.Normal) (hr : isRemote u.scheme) (ha : u.authority = some a) :
    (parse u.text).map origin = (Host.domain a.host).map fun host => (u.scheme, some { a with host := host }) := by
  have ⟨hs, hf⟩ := Bool.and_eq_true_iff.mp hr
  rw [Bool.not_eq_true'] at hf
  unfold parse
  rw [h.clean_text, text_eq ha, scheme?_append h.scheme]
  simp only [ofScheme, hf, hs, withAuthority, dropWhile_slashes h hr ha, splitAuthority_text h ha,
    readAuthority_text (h.authority a ha) hr, Bool.false_eq_true, if_false, if_true]
  cases Host.domain a.host <;> rfl

end Origin

end StatsQuery.Url
