import Mathlib.Data.List.TakeWhile
import InputHub.Proofs.Parsing
import InputHub.Proofs.Spelling
import InputHub.Wire

/-!
# What is written on the wire is read back

A wire form is lawful if every value has a form that writers make and is read back from it. Records,
cases and lists inherit this from their parts, so that the text of a value is enough to recover it:

* `Wire.int?_ofInt`: whole numbers are read back, those with a sign too;
* `Wire.fields?_record`: the fields of a record are found under their names, in order;
* `LawfulWire`: the law, with one instance for each of the hub's forms without fractions;
* `Wire.read?_write`: a lawful form makes a text from which its value is read;
* `Wire.forms_round_trip`: it holds of the hub's forms without fractions, and so writing what was
  read from any text gives a normal form of that text.
-/

namespace InputHub

open Json (Written)

/-! ## Whole numbers -/

theorem Numeral.toList_ofInt_negSucc (n : Nat) :
    (ofInt (.negSucc n)).toList = '-' :: (ofNat (n + 1)).toList := by
  rw [ofInt, String.toList_append]
  rfl

namespace Json.Literal

theorem digits_of_isDigit {cs : List Char} (h : ∀ c ∈ cs, c.isDigit) : digits cs = (cs, []) := by
  rw [digits, List.takeWhile_eq_self_iff.mpr h, List.dropWhile_eq_nil_iff.mpr h]

theorem readUnsigned?_ofNat (negative : Bool) (n : Nat) :
    readUnsigned? negative (Numeral.ofNat n).toList =
      some ⟨negative, (Numeral.ofNat n).toList, none, none⟩ := by
  have hdigits := digits_of_isDigit (fun c hc => Numeral.isDigit_of_mem_ofNat (n := n) hc)
  have hempty : ¬ (Numeral.ofNat n).toList.isEmpty := by
    rw [Numeral.toList_ofNat]
    simp [Nat.toDigits_ne_nil]
  have hzero : ¬ ((Numeral.ofNat n).toList.head? = some '0' ∧
      (Numeral.ofNat n).toList.length ≠ 1) := by
    rw [Numeral.toList_ofNat]
    rintro ⟨hhead, hlength⟩
    obtain rfl := Numeral.eq_zero_of_head?_toDigits hhead
    exact hlength rfl
  rw [readUnsigned?, hdigits]
  exact if_neg (not_or.mpr ⟨hempty, hzero⟩)

theorem read?_ofNat (n : Nat) :
    read? (Numeral.ofNat n).toList = some ⟨false, (Numeral.ofNat n).toList, none, none⟩ := by
  have hread := readUnsigned?_ofNat false n
  rw [read?]
  · exact hread
  · intro cs hcs
    have hminus : '-'.isDigit := Numeral.isDigit_of_mem_ofNat (hcs ▸ List.mem_cons_self)
    exact absurd hminus (by decide)

theorem value_ofNat (n : Nat) : value 0 (Numeral.ofNat n).toList = n :=
  Numeral.ofDigitChars_ofNat n

theorem read?_ofInt (n : Int) : (read? (Numeral.ofInt n).toList).bind toInt? = some n := by
  cases n with
  | ofNat n =>
    rw [Numeral.ofInt, read?_ofNat, Option.bind_some, toInt?]
    simp [value_ofNat]
  | negSucc n =>
    rw [Numeral.toList_ofInt_negSucc, read?, readUnsigned?_ofNat, Option.bind_some, toInt?]
    simp [value_ofNat, Int.negSucc_eq]

theorem isWordChar_of_mem_ofInt {n : Int} {c : Char} (h : c ∈ (Numeral.ofInt n).toList) :
    Token.isWordChar c := by
  have hdigit : ∀ {m : Nat}, c ∈ (Numeral.ofNat m).toList → Token.isWordChar c := by
    intro m hm
    simp [Token.isWordChar, Char.isAlphanum, Numeral.isDigit_of_mem_ofNat hm]
  cases n with
  | ofNat m => exact hdigit h
  | negSucc m =>
    rw [Numeral.toList_ofInt_negSucc] at h
    rcases List.mem_cons.mp h with rfl | h
    · decide
    · exact hdigit h

end Json.Literal

/-- A whole number is written as a literal. -/
theorem Json.written_ofInt (n : Int) : Written (.number (Numeral.ofInt n).toList) := by
  refine .number ?_ fun c hc => Literal.isWordChar_of_mem_ofInt hc
  obtain ⟨l, hl, -⟩ := Option.bind_eq_some_iff.mp (Literal.read?_ofInt n)
  rw [hl]
  rfl

theorem Instant.ofParts?_seconds_nanos (t : Instant) : ofParts? t.seconds t.nanos = some t := by
  have hcarry : t.nanos / 1000000000 = 0 := Nat.div_eq_of_lt t.nanos_lt
  have hrest : t.nanos % 1000000000 = t.nanos := Nat.mod_eq_of_lt t.nanos_lt
  simp [ofParts?, hcarry, hrest, t.seconds_lt]

/-! ## Records and cases -/

namespace Wire

theorem mapM_eq_map {α β : Type} {f : α → Option β} {g : α → β} {xs : List α}
    (h : ∀ x ∈ xs, f x = some (g x)) : xs.mapM f = some (xs.map g) := by
  induction xs with
  | nil => rfl
  | cons x xs ih =>
    have hxs := ih fun y hy => h y (List.mem_cons_of_mem x hy)
    rw [List.mapM_cons, h x List.mem_cons_self, hxs]
    rfl

theorem int?_ofInt (n : Int) : int? (.number (Numeral.ofInt n).toList) = some n :=
  Json.Literal.read?_ofInt n

theorem nat?_ofNat {width n : Nat} (h : n < 2 ^ width) :
    nat? width (.number (Numeral.ofNat n).toList) = some n := by
  have hint : int? (.number (Numeral.ofNat n).toList) = some (n : Int) := int?_ofInt n
  have hfits : 0 ≤ (n : Int) ∧ (n : Int).toNat < 1 <<< width := by
    refine ⟨Int.natCast_nonneg n, ?_⟩
    rw [Int.toNat_natCast, Nat.one_shiftLeft]
    exact h
  rw [nat?, hint, Option.bind_some, if_pos hfits, Int.toNat_natCast]

theorem named?_record (fields : List (String × Json)) :
    named? (fields.map fun (k, v) => (Json.escape k.toList, v)) = some fields := by
  rw [named?, List.mapM_map, mapM_eq_map (g := id), List.map_id]
  intro f _
  simp [Json.unescape?_escape]

/-- Where no name is given twice, a name picks out its field. -/
theorem filter_name_eq {fields : List (String × Json)} (h : (fields.map Prod.fst).Nodup)
    {f : String × Json} (hf : f ∈ fields) : (fields.filter fun g => g.1 = f.1) = [f] := by
  induction fields with
  | nil => nomatch hf
  | cons g fields ih =>
    rw [List.map_cons, List.nodup_cons] at h
    obtain ⟨hg, hrest⟩ := h
    rcases List.mem_cons.mp hf with rfl | hf
    · have hnone : (fields.filter fun g => g.1 = f.1) = [] := by
        refine List.filter_eq_nil_iff.mpr fun x hx => ?_
        have hne : x.1 ≠ f.1 := fun heq => hg (heq ▸ List.mem_map_of_mem hx)
        simpa using hne
      rw [List.filter_cons_of_pos (by simp), hnone]
    · have hne : g.1 ≠ f.1 := fun heq => hg (heq ▸ List.mem_map_of_mem hf)
      rw [List.filter_cons_of_neg (by simpa using hne), ih hrest hf]

theorem field?_of_mem {fields : List (String × Json)} (h : (fields.map Prod.fst).Nodup)
    {f : String × Json} (hf : f ∈ fields) : field? fields f.1 = some (some f.2) := by
  rw [field?, filter_name_eq h hf]

/-- The fields of a record are found under their names, in order. -/
theorem fields?_record {names : List String} (hnames : names.Nodup) (values : List Json)
    (hlength : names.length = values.length) :
    fields? names (record (names.zip values)) = some (values.map some) := by
  have hfst : (names.zip values).map Prod.fst = names := List.map_fst_zip hlength.le
  have hsnd : (names.zip values).map Prod.snd = values := List.map_snd_zip hlength.ge
  have hfields := mapM_eq_map fun f hf =>
    field?_of_mem (f := f) (hfst.symm ▸ hnames) hf
  rw [record, fields?, named?_record, Option.bind_some]
  calc names.mapM (field? (names.zip values))
      = (names.zip values).mapM fun f => field? (names.zip values) f.1 := by
        conv_lhs => rw [← hfst]
        rw [List.mapM_map, hfst]
        rfl
    _ = some ((names.zip values).map fun f => some f.2) := hfields
    _ = some (values.map some) := by
        conv_rhs => rw [← hsnd]
        rw [List.map_map]
        rfl

theorem written_record {fields : List (String × Json)} (h : ∀ f ∈ fields, Written f.2) :
    Written (record fields) := by
  refine .object ?_ ?_
  · intro f hf
    obtain ⟨g, -, rfl⟩ := List.mem_map.mp hf
    exact ⟨g.1.toList, rfl⟩
  · intro f hf
    obtain ⟨g, hg, rfl⟩ := List.mem_map.mp hf
    exact h g hg

theorem case?_string (s : String) :
    case? (.string (Json.escape s.toList)) = some (.bare s) := by
  rw [case?, Json.unescape?_escape, Option.map_some, String.ofList_toList]

theorem case?_record (k : String) (v : Json) : case? (record [(k, v)]) = some (.holding k v) := by
  show (Json.unescape? (Json.escape k.toList)).map _ = _
  rw [Json.unescape?_escape, Option.map_some, String.ofList_toList]

theorem plainCase?_string (s : String) :
    plainCase? (.string (Json.escape s.toList)) = some s := by
  rw [plainCase?, case?_string]

end Wire

/-! ## Lawful forms -/

/-- A wire form that writers make and that is read back. -/
class LawfulWire (α : Type) [Wire α] : Prop where
  written : ∀ a : α, Written (Wire.toJson a)
  ofJson?_toJson : ∀ a : α, Wire.ofJson? (Wire.toJson a) = some a

namespace Wire

open LawfulWire

theorem read?_write {α : Type} [Wire α] [LawfulWire α] (a : α) : read? α (write a) = some a := by
  rw [read?, write, (written a).parse?_render, Option.bind_some, ofJson?_toJson]

instance : LawfulWire String where
  written s := .string s.toList
  ofJson?_toJson s := by
    show (Json.unescape? (Json.escape s.toList)).map String.ofList = some s
    rw [Json.unescape?_escape, Option.map_some, String.ofList_toList]

instance : LawfulWire Bool where
  written b := .bool b
  ofJson?_toJson _ := rfl

instance : LawfulWire UInt32 where
  written n := Json.written_ofInt n.toNat
  ofJson?_toJson n := by
    show (nat? 32 (.number (Numeral.ofNat n.toNat).toList)).map UInt32.ofNat = some n
    rw [nat?_ofNat n.toNat_lt, Option.map_some, UInt32.ofNat_toNat]

instance : LawfulWire Int32 where
  written n := Json.written_ofInt n.toInt
  ofJson?_toJson n := by
    show (int? (.number (Numeral.ofInt n.toInt).toList)).bind _ = some n
    rw [int?_ofInt, Option.bind_some, if_pos ⟨Int32.le_toInt n, Int32.toInt_le n⟩,
      Int32.ofInt_toInt]

instance : LawfulWire Qualifier where
  written q := written_record (by simp [written])
  ofJson?_toJson q := by
    have hfields : fields? ["source", "id", "name"] (toJson q) =
        some [some (toJson q.source), some (toJson q.id), some (toJson q.name)] :=
      fields?_record (by decide) [toJson q.source, toJson q.id, toJson q.name] rfl
    show (fields? ["source", "id", "name"] (toJson q)).bind _ = some q
    rw [hfields]
    show (ofJson? (toJson q.source)).bind _ = some q
    simp only [ofJson?_toJson, Option.bind_some]
    rfl

instance : LawfulWire Capabilities where
  written c := written c.bits
  ofJson?_toJson c := by
    show (ofJson? (toJson c.bits)).map Capabilities.mk = some c
    rw [ofJson?_toJson, Option.map_some]

instance : LawfulWire Config where
  written c := written_record (by simp [written])
  ofJson?_toJson c := by
    have hfields : fields? ["hotplug_thread_name", "refresh_on_register"] (toJson c) =
        some [some (toJson c.workerName), some (toJson c.refreshOnRegister)] :=
      fields?_record (by decide) [toJson c.workerName, toJson c.refreshOnRegister] rfl
    show (fields? ["hotplug_thread_name", "refresh_on_register"] (toJson c)).bind _ = some c
    rw [hfields]
    show (ofJson? (toJson c.workerName)).bind _ = some c
    simp only [ofJson?_toJson, Option.bind_some]
    rfl

instance : LawfulWire Effect where
  written e := written e.name
  ofJson?_toJson e := by
    show (plainCase? (.string (Json.escape e.name.toList))).bind Effect.ofName? = some e
    rw [plainCase?_string, Option.bind_some]
    cases e <;> rfl

instance : LawfulWire KeyAction where
  written a := written a.name
  ofJson?_toJson a := by
    show (plainCase? (.string (Json.escape a.name.toList))).bind KeyAction.ofName? = some a
    rw [plainCase?_string, Option.bind_some]
    cases a <;> rfl

instance : LawfulWire InputSource where
  written
    | .gamepad => written "Gamepad"
    | .joystick => written "Joystick"
    | .touchscreen => written "Touchscreen"
    | .mouse => written "Mouse"
    | .keyboard => written "Keyboard"
    | .unknown code => written_record (by simp [written])
  ofJson?_toJson s := by
    cases s with
    | unknown code =>
      simp only [ofJson?, toJson, case?_record]
      exact congrArg (Option.map InputSource.unknown) (ofJson?_toJson code)
    | _ => simp only [ofJson?, toJson, case?_string, plainCase?_string]

instance : LawfulWire Instant where
  written t := by
    refine written_record ?_
    simp only [List.forall_mem_cons]
    exact ⟨Json.written_ofInt t.seconds, Json.written_ofInt t.nanos, fun _ h => nomatch h⟩
  ofJson?_toJson t := by
    have hfields : fields? ["secs_since_epoch", "nanos_since_epoch"] (toJson t) =
        some [some (.number (Numeral.ofNat t.seconds).toList),
          some (.number (Numeral.ofNat t.nanos).toList)] :=
      fields?_record (by decide) [.number (Numeral.ofNat t.seconds).toList,
        .number (Numeral.ofNat t.nanos).toList] rfl
    have hseconds : nat? 64 (.number (Numeral.ofNat t.seconds).toList) = some t.seconds :=
      nat?_ofNat (Nat.lt_trans t.seconds_lt (by decide))
    have hnanos : nat? 32 (.number (Numeral.ofNat t.nanos).toList) = some t.nanos :=
      nat?_ofNat (Nat.lt_trans t.nanos_lt (by decide))
    have hobject : toJson t = .object ([("secs_since_epoch",
        .number (Numeral.ofNat t.seconds).toList), ("nanos_since_epoch",
        .number (Numeral.ofNat t.nanos).toList)].map fun (k, v) => (Json.escape k.toList, v)) := rfl
    simp only [ofJson?, hfields]
    rw [hobject]
    simp only [named?_record, Option.bind_eq_bind, Option.bind_some, hseconds, hnanos,
      t.ofParts?_seconds_nanos]
    rfl

instance : LawfulWire KeyEvent where
  written e := written_record (by simp [written])
  ofJson?_toJson e := by
    have hfields : fields? ["device_id", "key_code", "action", "repeat_count", "meta_state",
        "time"] (toJson e) = some [some (toJson e.deviceId), some (toJson e.keyCode),
          some (toJson e.action), some (toJson e.repeatCount), some (toJson e.metaState),
          some (toJson e.time)] :=
      fields?_record (by decide) [toJson e.deviceId, toJson e.keyCode, toJson e.action,
        toJson e.repeatCount, toJson e.metaState, toJson e.time] rfl
    show (fields? ["device_id", "key_code", "action", "repeat_count", "meta_state", "time"]
      (toJson e)).bind _ = some e
    rw [hfields]
    show (ofJson? (toJson e.deviceId)).bind _ = some e
    simp only [ofJson?_toJson, Option.bind_some]
    rfl

/-! ## Texts -/

/-- The text to which a text is brought by reading it and writing what was read. -/
def normal? (α : Type) [Wire α] (text : String) : Option String := (read? α text).map write

/-- Whether every value is read back from its text, and every text that is read at all is brought
to a normal form, which is left as it is. -/
def RoundTrips (α : Type) [Wire α] : Prop :=
  (∀ a : α, read? α (write a) = some a) ∧
    ∀ text form, normal? α text = some form → normal? α form = some form

theorem roundTrips (α : Type) [Wire α] [LawfulWire α] : RoundTrips α := by
  refine ⟨read?_write, fun text form h => ?_⟩
  obtain ⟨a, -, rfl⟩ := Option.map_eq_some_iff.mp h
  rw [normal?, read?_write, Option.map_some]

/-- Every value of the forms without fractions is read back from its text, an axis name, which is
its text, among them. -/
theorem forms_round_trip :
    RoundTrips Qualifier ∧ RoundTrips String ∧ RoundTrips Capabilities ∧ RoundTrips Config ∧
      RoundTrips Effect ∧ RoundTrips KeyAction ∧ RoundTrips InputSource ∧ RoundTrips KeyEvent :=
  ⟨roundTrips _, roundTrips _, roundTrips _, roundTrips _, roundTrips _, roundTrips _,
    roundTrips _, roundTrips _⟩

example : write (⟨"usb\x01\"", 2, "Pad"⟩ : Qualifier) =
    "\x7b\"source\":\"usb\\u0001\\\"\",\"id\":2,\"name\":\"Pad\"\x7d" := by
  decide +kernel

example : normal? Config "\x7b \"more\" : [1], \"refresh_on_register\" : false \x7d" =
    some "\x7b\"hotplug_thread_name\":\"Hotplug thread\",\"refresh_on_register\":false\x7d" := by
  decide +kernel

example : normal? InputSource "[]" = none ∧
    normal? InputSource "\x7b\"Mouse\":null\x7d" = some "\"Mouse\"" ∧
    normal? InputSource "\x7b\"Unknown\":7\x7d" = some "\x7b\"Unknown\":7\x7d" := by
  decide +kernel

end Wire

end InputHub
