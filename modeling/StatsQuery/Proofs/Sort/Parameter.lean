import StatsQuery.Proofs.Error.Steps
import StatsQuery.Proofs.Json.Reading
import StatsQuery.Proofs.View.Dotted
import StatsQuery.Sort

namespace StatsQuery

theorem Direction.parse_name (d : Direction) : parse d.name = .ok d := by
  cases d <;> rfl

namespace SortKey

variable {key : SortKey} {field direction : String}

def texts (key : SortKey) : String × String :=
  (key.field.toString, key.direction.name)

theorem parse_texts (key : SortKey) : parse key.texts.1 key.texts.2 = .ok key := by
  simp [parse, texts, Path.parse_toString, Direction.parse_name, pure, bind, Except.bind, Except.pure]

theorem field_of_parse (h : parse field direction = .ok key) : key.texts.1 = field := by
  have ⟨p, hp, h⟩ := bind_eq_ok_iff.mp h
  have ⟨d, _, h⟩ := bind_eq_ok_iff.mp h
  exact Except.ok.inj h ▸ Path.toString_of_parse hp

end SortKey

namespace SortSpec

variable {s : SortSpec} {fields directions : List String}

theorem ofLists_eq_ok_iff :
    ofLists fields directions = .ok s ↔
      fields.length = directions.length ∧
        List.Forall₂ (fun texts key => SortKey.parse texts.1 texts.2 = .ok key) (fields.zip directions) s.keys := by
  unfold ofLists
  split
  case isTrue h =>
    rw [bind_eq_ok_iff, and_iff_right h, ← mapM_eq_ok_iff]
    exact ⟨fun ⟨keys, hk, he⟩ => Except.ok.inj he ▸ hk, fun hk => ⟨s.keys, hk, rfl⟩⟩
  case isFalse h => exact iff_of_false nofun fun ⟨hl, _⟩ => h hl

theorem fields_of_ofLists (h : ofLists fields directions = .ok s) : s.keys.map (·.texts.1) = fields := by
  have ⟨hl, hk⟩ := ofLists_eq_ok_iff.mp h
  have hf : List.Forall₂ (fun texts key => texts.1 = key) (fields.zip directions) (s.keys.map (·.texts.1)) :=
    List.forall₂_map_right_iff.mpr <| hk.imp fun _ _ hp => (SortKey.field_of_parse hp).symm
  rw [← List.map_fst_zip (Nat.le_of_eq hl)]
  exact (List.forall₂_eq_eq_eq ▸ List.forall₂_map_left_iff.mpr hf).symm

theorem ofLists_texts (s : SortSpec) : ofLists (s.keys.map (·.texts.1)) (s.keys.map (·.texts.2)) = .ok s := by
  rw [ofLists_eq_ok_iff, List.zip_map', List.forall₂_map_left_iff, List.forall₂_same]
  exact ⟨by simp, fun key _ => SortKey.parse_texts key⟩

def entry (texts : String × String) : Json :=
  .obj [("direction", .str texts.2), ("property", .str texts.1)]

theorem isValue_entry (key : SortKey) :
    Json.IsValue 126
      (Json.print (.obj [("property", .str key.field.toString), ("direction", .str key.direction.name)]))
      (entry key.texts) := by
  have hl : "direction" < "property" := by decide
  have hm : entry key.texts =
      .ofMembers [("property", .str key.field.toString), ("direction", .str key.direction.name)] :=
    congrArg Json.obj (if_pos hl).symm
  rw [hm]
  exact Json.isValue_obj <|
    .cons (Json.isMember_print _ <| Json.isValue_str _ _) <| .cons (Json.isMember_print _ <| Json.isValue_str _ _) .nil

theorem parse?_queryParameter (s : SortSpec) :
    Json.parse? s.queryParameter = some (.arr (s.keys.map (entry ·.texts))) := by
  refine Json.parse?_compact <| Json.isValue_arr ?_
  rw [List.map_map, List.forall₂_map_left_iff, List.forall₂_map_right_iff, List.forall₂_same]
  exact fun key _ => isValue_entry key

-- The parameter is a list of objects with a property and a direction each, and nothing else, in the order of the keys. The
-- properties are the fields as they were given, and the sort that was asked for is the one that the properties and the
-- directions make up.
theorem queryParameter_reads_back {fields directions : OneOrMany String} (h : normalize fields directions = .ok s) :
    let entries := s.keys.map SortKey.texts
    Json.parse? s.queryParameter = some (.arr (entries.map entry)) ∧
      entries.map Prod.fst = fields.toList ∧
      normalize (.many (entries.map Prod.fst)) (.many (entries.map Prod.snd)) = .ok s := by
  intro entries
  refine ⟨?parsed, ?fields, ?again⟩
  case parsed => rw [parse?_queryParameter, List.map_map]; rfl
  case fields => rw [← fields_of_ofLists h, List.map_map]; rfl
  case again  =>
    rw [normalize, OneOrMany.toList, OneOrMany.toList, List.map_map, List.map_map]
    exact ofLists_texts s

theorem queryParameter_reads_back_escaped :
    let fields := ["a\"b\\c.é\n\x01", "points"]
    let entries := [("a\"b\\c.é\n\x01", "DESC"), ("points", "ASC")]
    let s : SortSpec := ⟨[⟨⟨["a\"b\\c", "é\n\x01"], by decide, by decide⟩, .descending⟩, ⟨⟨["points"], by decide, by decide⟩, .ascending⟩]⟩
    normalize (.many fields) (.many ["descending", "asc"]) = .ok s ∧
      Json.parse? s.queryParameter = some (.arr (entries.map entry)) ∧
      normalize (.many fields) (.many ["DESC", "ASC"]) = .ok s := by
  intro fields entries s
  have h : normalize (.many fields) (.many ["descending", "asc"]) = .ok s := rfl
  have ⟨hp, _, ha⟩ := queryParameter_reads_back h
  exact ⟨h, hp, ha⟩

end SortSpec

end StatsQuery
