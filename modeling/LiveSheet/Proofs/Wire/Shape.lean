import LiveSheet.Proofs.Wire.Text
import LiveSheet.Wire.Record
import Mathlib.Data.List.Nodup
import Mathlib.Data.List.TakeWhile

namespace LiveSheet.Wire

theorem readText_encodeString (text : String) (rest : List Char) :
    readText (encodeString text ++ rest) = .ok (text, rest) := by
  have hstring := string?_escaped text rest
  simp only [encodeString, List.cons_append, List.append_assoc, List.nil_append, readText,
    skipSpace, List.dropWhile_cons, show isSpace '"' = false from rfl]
  simp [hstring, orMalformed]

theorem Presence.read_encodeString (presence : Presence) (text : String) (rest : List Char) :
    presence.read (encodeString text ++ rest) = .ok (some text, rest) := by
  have htext := readText_encodeString text rest
  cases presence with
  | required | defaulted =>
      simp only [Presence.read, htext]
      rfl
  | optional =>
      have hquote : skipSpace (encodeString text ++ rest) = encodeString text ++ rest := rfl
      rw [Presence.read, readOptional, hquote]
      split
      · rename_i hnull
        cases hnull
      · simp only [htext]
        rfl

def joined : Bool → List (List Char) → List Char
  | _, [] => []
  | true, member :: members => member ++ joined false members
  | false, member :: members => ',' :: member ++ joined false members

theorem joined_eq_intercalate (members : List (List Char)) :
    joined true members = List.intercalate [','] members := by
  have hrest (first : List Char) (others : List (List Char)) :
      first ++ joined false others = List.intercalate [','] (first :: others) := by
    induction others generalizing first with
    | nil => simp [joined, List.intercalate]
    | cons second others ih =>
        rw [joined, List.intercalate_cons_cons, ← ih second]
        simp
  cases members with
  | nil => rfl
  | cons first others => exact hrest first others

theorem nextMember_joined (isFirst : Bool) (name : String) (content : List Char)
    (members : List (List Char)) (rest : List Char) :
    nextMember isFirst (joined isFirst (Shape.encodeMember name content :: members) ++ rest) =
      .ok (true, name.toList.flatMap escapedChar ++
        '"' :: ':' :: (content ++ (joined false members ++ rest))) := by
  cases isFirst <;>
    simp [joined, Shape.encodeMember, encodeString, nextMember, skipSpace, isSpace]

namespace Shape

variable {shape : Shape} {held : List (String × Option String)}

theorem readMember_written {field : Field} (hfield : shape.field? field.name = some field)
    (hnew : held.lookup field.name = none) (text : String) (rest : List Char) :
    shape.readMember held
        (field.name.toList.flatMap escapedChar ++ '"' :: ':' :: (encodeString text ++ rest)) =
      .ok (held ++ [(field.name, some text)], rest) := by
  have hcolon : readColon (':' :: (encodeString text ++ rest)) =
      .ok ((), encodeString text ++ rest) := rfl
  simp [readMember, string?_escaped, orMalformed, hfield, hnew, hcolon,
    Presence.read_encodeString, Bind.bind, Except.bind]

def write (entry : Field × String) : List Char :=
  encodeMember entry.1.name (encodeString entry.2)

def hold (entry : Field × String) : String × Option String :=
  (entry.1.name, some entry.2)

theorem readMembers_written {entries : List (Field × String)} {bound : Nat}
    (hfields : ∀ entry ∈ entries, shape.field? entry.1.name = some entry.1)
    (hnames : (held.map Prod.fst ++ entries.map (·.1.name)).Nodup)
    (hbound : entries.length < bound) (isFirst : Bool) (rest : List Char) :
    shape.readMembers bound isFirst held
        (joined isFirst (entries.map write) ++ '\x7d' :: rest) =
      .ok (held ++ entries.map hold, rest) := by
  induction entries generalizing held bound isFirst with
  | nil =>
      obtain ⟨bound, rfl⟩ := Nat.exists_eq_succ_of_ne_zero (Nat.ne_of_gt hbound)
      cases isFirst <;>
        simp [joined, readMembers, nextMember, skipSpace, isSpace, Bind.bind, Except.bind]
  | cons entry entries ih =>
      obtain ⟨bound, rfl⟩ :=
        Nat.exists_eq_succ_of_ne_zero (Nat.ne_of_gt (Nat.zero_lt_of_lt hbound))
      have hnew : held.lookup entry.1.name = none := by
        rw [List.lookup_eq_none_iff]
        intro pair hpair
        have hapart := (List.nodup_append.mp hnames).2.2 pair.1 (List.mem_map_of_mem hpair)
          entry.1.name List.mem_cons_self
        simpa using hapart.symm
      have hread := readMember_written (hfields entry List.mem_cons_self) hnew entry.2
        (joined false (entries.map write) ++ '\x7d' :: rest)
      have hrest : shape.readMembers bound false (held ++ [hold entry])
          (joined false (entries.map write) ++ '\x7d' :: rest) =
            .ok (held ++ [hold entry] ++ entries.map hold, rest) :=
        ih (fun other hmem => hfields other (List.mem_cons_of_mem _ hmem))
          (by simpa [hold] using hnames) (by simpa using hbound) false
      rw [List.append_assoc] at hrest
      rw [List.map_cons, readMembers, write, nextMember_joined]
      simp only [Bind.bind, Except.bind, if_true, hread]
      exact hrest

def present (fields : List Field) (slots : List (Option String)) : List (Field × String) :=
  (fields.zip slots).filterMap fun (field, slot) => slot.map fun text => (field, text)

theorem members_eq (shape : Shape) (slots : List (Option String)) :
    shape.members slots = (present shape.fields slots).map write := by
  rw [members, present, List.map_filterMap]
  congr 1
  funext ⟨field, slot⟩
  cases slot <;> rfl

theorem names_present_sublist (fields : List Field) (slots : List (Option String)) :
    ((present fields slots).map (·.1.name)).Sublist (fields.map Field.name) := by
  induction fields generalizing slots with
  | nil => exact List.Sublist.refl _
  | cons field fields ih =>
      cases slots with
      | nil => exact List.nil_sublist _
      | cons slot slots =>
          cases slot with
          | none => exact (ih slots).cons field.name
          | some text => exact (ih slots).cons_cons field.name

theorem lookup_hold_eq_none {entries : List (Field × String)} {name : String}
    (h : name ∉ entries.map (·.1.name)) : (entries.map hold).lookup name = none := by
  rw [List.lookup_eq_none_iff]
  intro pair hpair
  obtain ⟨entry, hentry, rfl⟩ := List.mem_map.mp hpair
  have hne : name ≠ entry.1.name := fun heq => h (heq ▸ List.mem_map_of_mem hentry)
  simpa [hold] using hne

theorem slot_present {fields : List Field} {slots : List (Option String)}
    (hnames : (fields.map Field.name).Nodup)
    (habsent : ∀ pair ∈ fields.zip slots, pair.2 = none → pair.1.presence = .optional) :
    ∀ pair ∈ fields.zip slots,
      slot ((present fields slots).map hold) pair.1 = .ok pair.2 := by
  induction fields generalizing slots with
  | nil => exact fun pair hpair => absurd hpair List.not_mem_nil
  | cons field fields ih =>
      cases slots with
      | nil => exact fun pair hpair => absurd hpair List.not_mem_nil
      | cons content slots =>
          obtain ⟨hfresh, hdistinct⟩ := List.nodup_cons.mp hnames
          have hothers := ih hdistinct fun pair hpair =>
            habsent pair (List.mem_cons_of_mem _ hpair)
          intro pair hpair
          cases content with
          | none =>
              rcases List.mem_cons.mp hpair with rfl | hpair
              · have hlookup := lookup_hold_eq_none fun hmem =>
                  hfresh ((names_present_sublist fields slots).mem hmem)
                have hoptional : field.presence = .optional :=
                  habsent _ List.mem_cons_self rfl
                change slot ((present fields slots).map hold) field = .ok none
                rw [slot, hlookup]
                rw [hoptional, Presence.missing]
              · exact hothers pair hpair
          | some text =>
              change slot ((field.name, some text) :: (present fields slots).map hold) pair.1 =
                .ok pair.2
              rcases List.mem_cons.mp hpair with rfl | hpair
              · simp [slot]
              · have hne : pair.1.name ≠ field.name := fun heq =>
                  hfresh (heq ▸ List.mem_map_of_mem (List.of_mem_zip hpair).1)
                have hheld := hothers pair hpair
                rw [slot] at hheld ⊢
                rw [List.lookup_cons, beq_eq_false_iff_ne.mpr hne]
                exact hheld

theorem mapM_slot {held : List (String × Option String)} {fields : List Field}
    {slots : List (Option String)} (hlength : fields.length = slots.length)
    (h : ∀ pair ∈ fields.zip slots, slot held pair.1 = .ok pair.2) :
    fields.mapM (slot held) = .ok slots := by
  induction fields generalizing slots with
  | nil =>
      rw [List.eq_nil_of_length_eq_zero hlength.symm]
      rfl
  | cons field fields ih =>
      cases slots with
      | nil => cases hlength
      | cons content slots =>
          rw [List.mapM_cons, h _ List.mem_cons_self,
            ih (by simpa using hlength) fun pair hpair => h pair (List.mem_cons_of_mem _ hpair)]
          rfl

/-- Fields of different names, of which only the optional ones may be absent. -/
structure Holds (shape : Shape) (slots : List (Option String)) : Prop where
  names : (shape.fields.map Field.name).Nodup
  length : shape.fields.length = slots.length
  absent : ∀ pair ∈ shape.fields.zip slots, pair.2 = none → pair.1.presence = .optional

theorem Holds.field? {slots : List (Option String)} (h : shape.Holds slots)
    {entry : Field × String} (hentry : entry ∈ present shape.fields slots) :
    shape.field? entry.1.name = some entry.1 := by
  have hfield : entry.1 ∈ shape.fields := by
    obtain ⟨⟨field, content⟩, hzip, hsome⟩ := List.mem_filterMap.mp hentry
    obtain ⟨text, -, rfl⟩ := Option.map_eq_some_iff.mp hsome
    exact (List.of_mem_zip hzip).1
  cases hfound : shape.field? entry.1.name with
  | none => exact absurd (List.find?_eq_none.mp hfound entry.1 hfield) (by simp)
  | some field =>
      have hname : field.name = entry.1.name := by simpa using List.find?_some hfound
      rw [List.inj_on_of_nodup_map h.names (List.mem_of_find?_eq_some hfound) hfield hname]

theorem length_le_joined (entries : List (Field × String)) (isFirst : Bool) :
    entries.length ≤ (joined isFirst (entries.map write)).length := by
  induction entries generalizing isFirst with
  | nil => exact Nat.zero_le _
  | cons entry entries ih =>
      have hrest := ih false
      cases isFirst <;>
        simp only [List.map_cons, joined, write, encodeMember, encodeString, List.length_cons,
          List.length_append] <;>
        omega

theorem read_encode {slots : List (Option String)} (h : shape.Holds slots) (rest : List Char) :
    shape.read ((shape.encode slots).toList ++ rest) = .ok (slots, rest) := by
  have hnames : ((present shape.fields slots).map (·.1.name)).Nodup :=
    (names_present_sublist shape.fields slots).nodup h.names
  have hlength := length_le_joined (present shape.fields slots) true
  have hmembers : shape.readMembers
      ((joined true ((present shape.fields slots).map write) ++ '\x7d' :: rest).length + 1) true []
      (joined true ((present shape.fields slots).map write) ++ '\x7d' :: rest) =
        .ok ((present shape.fields slots).map hold, rest) := by
    refine readMembers_written (fun entry => h.field?) ?_ ?_ true rest
    · simpa using hnames
    · rw [List.length_append]
      omega
  have hslots := mapM_slot h.length (slot_present h.names h.absent)
  have htext : (shape.encode slots).toList ++ rest =
      '\x7b' :: (joined true ((present shape.fields slots).map write) ++ '\x7d' :: rest) := by
    simp [encode, encodeObject, members_eq, joined_eq_intercalate]
  have hopen : skipSpace
      ('\x7b' :: (joined true ((present shape.fields slots).map write) ++ '\x7d' :: rest)) =
        '\x7b' :: (joined true ((present shape.fields slots).map write) ++ '\x7d' :: rest) := rfl
  rw [htext, read, hopen]
  simp only [hmembers, hslots, Bind.bind, Except.bind]

def IsBlank (text : String) : Prop :=
  text.toList.all isSpace = true

instance (text : String) : Decidable (IsBlank text) :=
  inferInstanceAs (Decidable (text.toList.all isSpace = true))

theorem decode_encode {slots : List (Option String)} {blank : String}
    (h : shape.Holds slots) (hblank : IsBlank blank) :
    shape.decode (shape.encode slots ++ blank) = .ok slots := by
  have hread := read_encode h blank.toList
  have hskip : skipSpace blank.toList = [] :=
    List.dropWhile_eq_nil_iff.mpr (List.all_eq_true.mp hblank)
  rw [decode, String.toList_append, hread]
  simp [Bind.bind, Except.bind, hskip]

theorem decode_slots {ofSlots : List (Option String) → Except WireError α} {record : α}
    {slots : List (Option String)} {blank : String} (h : shape.Holds slots)
    (hslots : ofSlots slots = .ok record) (hblank : IsBlank blank) :
    (do ofSlots (← shape.decode (shape.encode slots ++ blank))) = .ok record := by
  rw [decode_encode h hblank]
  exact hslots

end Shape

end LiveSheet.Wire

namespace LiveSheet

open LiveSheet.Wire
open LiveSheet.Wire.Shape (IsBlank)

variable {blank : String}

theorem CellResponse.decode_encode (cell : CellResponse) (hblank : IsBlank blank) :
    decode (cell.encode ++ blank) = .ok cell :=
  Shape.decode_slots ⟨by decide, rfl, by simp [shape, slots]⟩ rfl hblank

theorem UpsertRequest.decode_encode (request : UpsertRequest) (hblank : IsBlank blank) :
    decode (request.encode ++ blank) = .ok request :=
  Shape.decode_slots ⟨by decide, rfl, by simp [shape, slots]⟩ rfl hblank

theorem SubscribeResponse.decode_encode (response : SubscribeResponse)
    (hblank : IsBlank blank) : decode (response.encode ++ blank) = .ok response :=
  Shape.decode_slots ⟨by decide, rfl, by simp [shape, slots]⟩ rfl hblank

theorem SubscriptionRecord.decode_encode (record : SubscriptionRecord)
    (hblank : IsBlank blank) : decode (record.encode ++ blank) = .ok record :=
  Shape.decode_slots ⟨by decide, rfl, by simp [shape, slots]⟩ rfl hblank

theorem UpsertRequest.decodeBody_encode (request : UpsertRequest) :
    decodeBody request.encode = .ok request := by
  have hholds : shape.Holds request.slots := ⟨by decide, rfl, by simp [shape, slots]⟩
  have hread := Shape.read_encode hholds []
  rw [List.append_nil] at hread
  rw [decodeBody, Shape.decodeFront, encode, hread]
  rfl

end LiveSheet
