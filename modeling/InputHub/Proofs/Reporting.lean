import Mathlib.Data.List.Forall2
import InputHub.Proofs.Collating
import InputHub.Proofs.Tables
import InputHub.Proofs.Transmitting

/-!
# What the report of all devices says

The report of a snapshot is a laid out text, with one item or field to a line. It is written from
the devices alone, while the keys of a snapshot are kept beside them. That the two agree rests on
the coherence of every snapshot that a registry can reach:

* `Json.Written.parse?_pretty`: a laid out text is read as the value that it was made from;
* `Wire.fieldAs?_record`: a field of a record is read back under its name;
* `Snapshot.Coherent.map_render_toList`: the qualifiers of the devices read as the keys, in their
  order;
* `Snapshot.report_follows_qualifiers`: the report has one object for each key, in the order of the
  bytes of the keys, and each of them says what a look-up of its key finds.
-/

namespace InputHub

/-! ## Laid out texts -/

namespace Json

open Token (Spells Ended)

/-- A value whose laid out text spells its tokens, at any depth and whatever is spelled behind
it. -/
def LaidOut (v : Json) : Prop :=
  ∀ (depth : Nat) {ts : List Token} {cs : List Char}, Spells ts cs → Ended cs →
    Spells (v.tokens ++ ts) (v.prettyChars depth ++ cs)

/-- To start a new line adds blanks only. -/
theorem spells_newline (depth : Nat) {ts : List Token} {cs : List Char} (h : Spells ts cs) :
    Spells ts (newline depth ++ cs) := by
  have hblanks : ∀ n, Spells ts (List.replicate n ' ' ++ cs) := by
    intro n
    induction n with
    | zero => exact h
    | succ n ih =>
      rw [List.replicate_succ]
      exact .blank (by decide) ih
  exact .blank (by decide) (hblanks (2 * depth))

theorem ended_newline (depth : Nat) (cs : List Char) : Ended (newline depth ++ cs) := by
  intro c hc
  obtain rfl : '\n' = c := Option.some.inj hc
  decide

theorem spells_prettyItems (depth : Nat) {items : List Json} (h : ∀ v ∈ items, LaidOut v)
    {ts : List Token} {cs : List Char} (hs : Spells ts cs) (hend : Ended cs) :
    Spells (itemTokens items ++ ts) (prettyItems depth items ++ cs) := by
  match items with
  | [] => exact hs
  | [v] =>
    rw [itemTokens, prettyItems, List.append_assoc]
    exact spells_newline depth (h v List.mem_cons_self depth hs hend)
  | v :: w :: vs =>
    have hcomma : Token.mark? ',' = some .comma := rfl
    have hrest : Spells (itemTokens (w :: vs) ++ ts) (prettyItems depth (w :: vs) ++ cs) :=
      spells_prettyItems depth (fun x hx => h x (List.mem_cons_of_mem v hx)) hs hend
    have hv := h v List.mem_cons_self depth (.mark hcomma hrest) (ended_mark hcomma _)
    rw [itemTokens_cons_append]
    simpa [prettyItems] using spells_newline depth hv

theorem spells_prettyField (depth : Nat) {k : List Char} {v : Json} (hk : ∃ cs, k = escape cs)
    (hv : LaidOut v) {ts : List Token} {cs : List Char} (hs : Spells ts cs) (hend : Ended cs) :
    Spells (.string k :: .colon :: (v.tokens ++ ts))
      (newline depth ++ ((Token.string k).text ++ ':' :: ' ' :: (v.prettyChars depth ++ cs))) := by
  obtain ⟨name, rfl⟩ := hk
  have hcolon : Token.mark? ':' = some .colon := rfl
  exact spells_newline depth
    (.string name (.mark hcolon (.blank (by decide) (hv depth hs hend))))

theorem spells_prettyFields (depth : Nat) {fields : List (List Char × Json)}
    (hnames : ∀ f ∈ fields, ∃ cs, f.1 = escape cs) (h : ∀ f ∈ fields, LaidOut f.2)
    {ts : List Token} {cs : List Char} (hs : Spells ts cs) (hend : Ended cs) :
    Spells (fieldTokens fields ++ ts) (prettyFields depth fields ++ cs) := by
  match fields with
  | [] => exact hs
  | [(k, v)] =>
    have hfield := spells_prettyField depth (hnames _ List.mem_cons_self) (h _ List.mem_cons_self)
      hs hend
    rw [fieldTokens_single_append]
    simpa [prettyFields] using hfield
  | (k, v) :: f :: fs =>
    have hcomma : Token.mark? ',' = some .comma := rfl
    have hrest : Spells (fieldTokens (f :: fs) ++ ts) (prettyFields depth (f :: fs) ++ cs) :=
      spells_prettyFields depth (fun x hx => hnames x (List.mem_cons_of_mem _ hx))
        (fun x hx => h x (List.mem_cons_of_mem _ hx)) hs hend
    have hfield := spells_prettyField depth (hnames _ List.mem_cons_self) (h _ List.mem_cons_self)
      (.mark hcomma hrest) (ended_mark hcomma _)
    rw [fieldTokens_cons_append]
    simpa [prettyFields] using hfield

theorem Written.laidOut {v : Json} (h : Written v) : LaidOut v := by
  intro depth ts cs hs hend
  induction h generalizing depth ts cs with
  | null => simpa [prettyChars, tokens] using Written.null.spelled hs hend
  | bool b => simpa [prettyChars, tokens] using (Written.bool b).spelled hs hend
  | number hread hchars =>
    simpa [prettyChars, tokens, Token.text] using (Written.number hread hchars).spelled hs hend
  | string body => simpa [prettyChars, tokens] using (Written.string body).spelled hs hend
  | @array items _ ih =>
    have hopen : Token.mark? '[' = some .openBracket := rfl
    have hclose : Token.mark? ']' = some .closeBracket := rfl
    rw [tokens_array_append]
    cases items with
    | nil => exact .mark hopen (.mark hclose hs)
    | cons v vs =>
      have hitems := spells_prettyItems (depth + 1) (fun w hw depth => ih w hw depth)
        (spells_newline depth (.mark hclose hs)) (ended_newline depth _)
      simpa [prettyChars] using Spells.mark hopen hitems
  | @object fields hnames _ ih =>
    have hopen : Token.mark? '\x7b' = some .openBrace := rfl
    have hclose : Token.mark? '\x7d' = some .closeBrace := rfl
    rw [tokens_object_append]
    cases fields with
    | nil => exact .mark hopen (.mark hclose hs)
    | cons f fs =>
      have hfields := spells_prettyFields (depth + 1) hnames (fun g hg depth => ih g hg depth)
        (spells_newline depth (.mark hclose hs)) (ended_newline depth _)
      simpa [prettyChars] using Spells.mark hopen hfields

theorem Written.parse?_pretty {v : Json} (h : Written v) : parse? v.pretty = some v := by
  have hspells : Spells v.tokens (v.prettyChars 0) := by
    simpa using h.laidOut 0 .nil (fun _ hc => nomatch hc)
  rw [parse?, pretty, String.toList_ofList, Token.read?_of_spells hspells, Option.bind_some,
    ofTokens?_tokens]

end Json

/-! ## Fields of records -/

namespace Wire

open LawfulWire
open Json (Written)

instance {α : Type} [Wire α] [LawfulWire α] : LawfulWire (List α) where
  written xs := by
    refine .array fun v hv => ?_
    obtain ⟨x, -, rfl⟩ := List.mem_map.mp hv
    exact written x
  ofJson?_toJson xs := by
    show (xs.map toJson).mapM ofJson? = some xs
    rw [List.mapM_map, mapM_eq_map (g := id), List.map_id]
    exact fun x _ => ofJson?_toJson x

/-- What the field of an object with a name is read as. -/
def fieldAs? (α : Type) [Wire α] (name : String) : Json → Option α
  | .object fields => (named? fields).bind fun fs => (field? fs name).join.bind ofJson?
  | _ => none

theorem fieldAs?_record {α : Type} [Wire α] [LawfulWire α] {fields : List (String × Json)}
    (h : (fields.map Prod.fst).Nodup) {name : String} {a : α} (ha : (name, toJson a) ∈ fields) :
    fieldAs? α name (record fields) = some a := by
  rw [record, fieldAs?, named?_record, Option.bind_some, field?_of_mem h ha, Option.join_some,
    Option.bind_some, ofJson?_toJson]

end Wire

namespace Device

open Wire (fieldAs?)

/-- An object of the report says everything of a device but how it vibrates. -/
structure ReportedBy (dev : Device) (v : Json) : Prop where
  qualifier : fieldAs? Qualifier "qualifier" v = some dev.qualifier
  platformId : fieldAs? Int32 "platform_id" v = some dev.platformId
  capabilities : fieldAs? Capabilities "capabilities" v = some dev.capabilities
  sensorAxes : fieldAs? (List String) "sensor_axes" v = some dev.sensorAxes

theorem written_toJson (dev : Device) : Json.Written dev.toJson :=
  Wire.written_record (by simp [LawfulWire.written])

theorem reportedBy_toJson (dev : Device) : dev.ReportedBy dev.toJson where
  qualifier := Wire.fieldAs?_record (by simp) (by simp)
  platformId := Wire.fieldAs?_record (by simp) (by simp)
  capabilities := Wire.fieldAs?_record (by simp) (by simp)
  sensorAxes := Wire.fieldAs?_record (by simp) (by simp)

end Device

/-! ## Snapshots -/

namespace Snapshot

open Wire (fieldAs?)

/-- The qualifiers of the devices read as the keys, in their order. -/
theorem Coherent.map_render_toList {s : Snapshot} (hs : Coherent s) :
    s.toList.map (fun dev => dev.qualifier.render) = s.qualifiers := by
  rw [toList, values_eq_map, List.map_map, qualifiers, ← Std.TreeMap.map_fst_toList_eq_keys]
  refine List.map_congr_left fun p hp => ?_
  exact hs.key_eq (Std.TreeMap.mem_toList_iff_getElem?_eq_some.1 hp)

/-- Keys stand in the order of their bytes. -/
theorem qualifiers_ascending (s : Snapshot) :
    s.qualifiers.Pairwise fun a b => Text.utf8 a < Text.utf8 b := by
  refine Std.TreeMap.ordered_keys.imp fun h => Text.utf8_lt ?_
  exact compareOfLessAndEq_eq_lt.1 h

theorem parse?_toJson (s : Snapshot) :
    Json.parse? s.toJson = some (.array (s.toList.map Device.toJson)) := by
  refine Json.Written.parse?_pretty (.array fun v hv => ?_)
  obtain ⟨dev, -, rfl⟩ := List.mem_map.1 hv
  exact dev.written_toJson

/-- After any history, over any texts: the report is read as an array with one object for each
device. In their order, the qualifiers that are read from the objects are the keys, which stand in
the order of their bytes, and each object says of its device what a look-up of the key finds. -/
theorem report_follows_qualifiers (history : List Request) :
    let s := afterAll history
    (s.qualifiers.Pairwise fun a b => Text.utf8 a < Text.utf8 b) ∧
    ∃ objects, Json.parse? s.toJson = some (.array objects) ∧ objects.length = s.size ∧
      objects.map (fun v => (fieldAs? Qualifier "qualifier" v).map Qualifier.render) =
        s.qualifiers.map some ∧
      List.Forall₂ (fun v k => ∃ dev, s.get? k = some dev ∧ dev.ReportedBy v) objects
        s.qualifiers := by
  intro s
  have hs : Coherent s := (fits_afterAll history).toCoherent
  refine ⟨qualifiers_ascending s, s.toList.map Device.toJson, parse?_toJson s, ?_, ?_, ?_⟩
  · rw [List.length_map, ← List.length_map fun dev => dev.qualifier.render, hs.map_render_toList,
      qualifiers, Std.TreeMap.length_keys, size]
  · rw [← hs.map_render_toList, List.map_map, List.map_map]
    refine List.map_congr_left fun dev _ => ?_
    simp only [Function.comp_apply, dev.reportedBy_toJson.qualifier, Option.map_some]
  · rw [← hs.map_render_toList, List.forall₂_map_left_iff, List.forall₂_map_right_iff,
      List.forall₂_same]
    exact fun dev hdev => ⟨dev, hs.mem_toList_iff.1 hdev, dev.reportedBy_toJson⟩

/-- Of two sources the shorter one is the smaller, but its key is the greater: there a slash follows
where the other one goes on with a dash. -/
example :
    let s := afterAll [.rebuild [.bare 1 "hid" "Pad"],
      .rebuild [.bare 1 "hid" "Pad", .bare 2 "hid-2" "Pad"]]
    s.qualifiers = ["hid-2/0/Pad", "hid/0/Pad"] ∧
      compare (⟨"hid", 0, "Pad"⟩ : Qualifier) ⟨"hid-2", 0, "Pad"⟩ = .lt := by
  decide +kernel

end Snapshot

end InputHub
