import Catalog.Proofs.JsonReadBack
import Catalog.Proofs.ReachableStores
import Catalog.Settings

set_option autoImplicit false

namespace Catalog

namespace Document

theorem nat?_numeralOf {n : Nat} (fits : n < 2 ^ 64) : (number (numeralOf n)).nat? = some n := by
  have value : (numeralOf n).int? = some (n : Int) := by
    simp only [JsonNumeral.int?, numeralOf, Numeral.ofDigits_digits]
    exact if_pos fits
  simp [nat?, int?, value]

theorem listOf?_texts (texts : List String) :
    listOf? text? (.list (texts.map fun text => .text (some text))) = some texts := by
  rw [listOf?]
  induction texts with
  | nil => rfl
  | cons text rest ih =>
    rw [List.map_cons, List.mapM_cons, ih]
    rfl

end Document

namespace Settings

variable {path text : String} {s : Settings}

structure Valid (s : Settings) : Prop where
  port_pos : 0 < s.port
  port_lt : s.port < 2 ^ 16
  host : Text.trim s.host ≠ ""

theorem validate_eq_ok_iff {given : Settings} : given.validate = .ok s ↔
    given = s ∧ given.port ≠ 0 ∧ Text.trim given.host ≠ "" := by
  unfold validate
  split_ifs with port host <;> simp [*]

theorem ofText_eq_ok_iff : ofText path text = .ok s ↔
    (Document.read? text).bind ofDocument? = some s ∧ s.port ≠ 0 ∧ Text.trim s.host ≠ "" := by
  unfold ofText
  split
  next given read =>
    rw [read, Option.some.injEq, validate_eq_ok_iff]
    refine and_congr_right fun same => ?_
    rw [same]
  next none => simp [none]

theorem port_lt_of_ofDocument? {d : Document} (read : ofDocument? d = some s) :
    s.port < 2 ^ 16 := by
  obtain ⟨fields, -, read⟩ := exists_of_bind read
  split at read
  next =>
    obtain ⟨host, -, read⟩ := exists_of_bind read
    obtain ⟨port, given, read⟩ := exists_of_bind read
    iterate 3 obtain ⟨_, -, read⟩ := exists_of_bind read
    cases read
    refine Document.of_withDefault (· < 2 ^ 16) (by decide) ?_ given
    intro d n number
    exact of_decide_eq_true (Option.filter_eq_some_iff.mp number).2
  next => cases read

theorem valid_of_ofText (accepted : ofText path text = .ok s) : s.Valid := by
  obtain ⟨read, port, host⟩ := ofText_eq_ok_iff.mp accepted
  obtain ⟨d, -, given⟩ := Option.bind_eq_some_iff.mp read
  exact ⟨Nat.pos_of_ne_zero port, port_lt_of_ofDocument? given, host⟩

theorem Valid.withOrigins (valid : s.Valid) (origins : List String) :
    Valid { s with corsOrigins := origins } :=
  ⟨valid.port_pos, valid.port_lt, valid.host⟩

def toJson (s : Settings) : Json :=
  .obj [("host", .str s.host), ("port", .ofNat s.port),
    ("cors_origins", .arr (s.corsOrigins.map .str)),
    ("seed_path", .ofOption .str s.seedPath), ("log_filter", .str s.logFilter)]

def toDocument (s : Settings) : Document :=
  .record [(some "host", .text (some s.host)), (some "port", .number (Document.numeralOf s.port)),
    (some "cors_origins", .list (s.corsOrigins.map fun origin => .text (some origin))),
    (some "seed_path", s.seedPath.elim .null fun path => .text (some path)),
    (some "log_filter", .text (some s.logFilter))]

theorem readsBack_toJson (s : Settings) : s.toJson.ReadsBack s.toDocument := by
  have origins : List.Forall₂ Json.ReadsBack (s.corsOrigins.map .str)
      (s.corsOrigins.map fun origin => .text (some origin)) := by
    rw [List.forall₂_map_left_iff, List.forall₂_map_right_iff, List.forall₂_same]
    intro origin _
    exact Json.readsBack_str origin
  have seed : (Json.ofOption .str s.seedPath).ReadsBack
      (s.seedPath.elim .null fun path => .text (some path)) := by
    cases s.seedPath with
    | none => exact Json.readsBack_null
    | some path => exact Json.readsBack_str path
  apply Json.readsBack_obj
  exact .cons ⟨rfl, Json.readsBack_str _⟩ (.cons ⟨rfl, Json.readsBack_nat _⟩
    (.cons ⟨rfl, Json.readsBack_arr origins⟩ (.cons ⟨rfl, seed⟩
      (.cons ⟨rfl, Json.readsBack_str _⟩ .nil))))

theorem port?_numeralOf (valid : s.Valid) :
    port? (.number (Document.numeralOf s.port)) = some s.port := by
  have bound := valid.port_lt
  rw [port?, Document.nat?_numeralOf (by omega), Option.filter_some]
  exact if_pos (decide_eq_true bound)

theorem ofDocument?_toDocument (valid : s.Valid) : ofDocument? s.toDocument = some s := by
  have fields : s.toDocument.fields? fieldNames = some [some (.text (some s.host)),
      some (.number (Document.numeralOf s.port)),
      some (.list (s.corsOrigins.map fun origin => .text (some origin))),
      some (s.seedPath.elim .null fun path => .text (some path)),
      some (.text (some s.logFilter))] := by
    rfl
  have seed : Document.nullable? Document.text?
      (s.seedPath.elim .null fun path => .text (some path)) = some s.seedPath := by
    cases s.seedPath <;> rfl
  rw [ofDocument?, fields]
  simp only [Option.bind_eq_bind, Option.bind_some, Document.withDefault, port?_numeralOf valid,
    Document.listOf?_texts, seed, Document.text?]
  rfl

theorem ofText_toJson (valid : s.Valid) (path : String) :
    ofText path s.toJson.compact = .ok s := by
  refine ofText_eq_ok_iff.mpr ⟨?_, valid.port_pos.ne', valid.host⟩
  rw [Json.read?_compact s.readsBack_toJson, Option.bind_some, ofDocument?_toDocument valid]

theorem exists_text_iff : (∃ text, ofText path text = .ok s) ↔ s.Valid := by
  constructor
  · rintro ⟨text, accepted⟩
    exact valid_of_ofText accepted
  · intro valid
    exact ⟨_, ofText_toJson valid path⟩

end Settings

end Catalog
