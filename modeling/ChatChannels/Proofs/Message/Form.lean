import ChatChannels.Message.Document
import ChatChannels.Proofs.Dict
import Mathlib.Data.List.Forall2

/-! Messages in the form in which they are written. No table in a message or in a delivery has a key
twice, so every entry is found under its key, and the message is read back from them. Reading does not
tell an absent key from null, nor one order of the keys from another, so two messages whose forms differ
in nothing else are one. -/
namespace ChatChannels

namespace Data

/-- No table in the data has a key twice. -/
inductive KeysDistinct : Data → Prop
  | null : KeysDistinct .null
  | bool (b : Bool) : KeysDistinct (.bool b)
  | int (n : Int) : KeysDistinct (.int n)
  | real (written : String) : KeysDistinct (.real written)
  | text (s : String) : KeysDistinct (.text s)
  | list {items : List Data} (hitems : ∀ d ∈ items, KeysDistinct d) : KeysDistinct (.list items)
  | table {entries : List (String × Data)} (hkeys : (entries.map Prod.fst).Nodup)
      (hvalues : ∀ e ∈ entries, KeysDistinct e.2) : KeysDistinct (.table entries)

/-- The value under a key, where one that is absent counts as null. -/
def valueAt (d : Data) (key : String) : Data := (d.get? key).getD .null

theorem valueAt_nil (key : String) : (table []).valueAt key = .null := rfl

theorem valueAt_cons (k : String) (value : Data) (entries : List (String × Data)) (key : String) :
    (table ((k, value) :: entries)).valueAt key =
      if k = key then value else (table entries).valueAt key := by
  by_cases hkey : k = key <;> simp [valueAt, get?, hkey]

/-- Data of one form: tables have alike values under every key, null where a key is absent, and lists
have alike items in the same order. -/
inductive Alike : Data → Data → Prop
  | refl (d : Data) : Alike d d
  | list {items items' : List Data} (hitems : List.Forall₂ Alike items items') :
      Alike (.list items) (.list items')
  | table {entries entries' : List (String × Data)}
      (hvalues : ∀ key, Alike ((Data.table entries).valueAt key) ((Data.table entries').valueAt key)) :
      Alike (.table entries) (.table entries')

variable {d e : Data} {key : String} {α β : Type} {read : Data → Option α}

@[simp] theorem keysDistinct_text (s : String) : (text s).KeysDistinct := .text s

@[simp] theorem keysDistinct_nat (n : Nat) : (nat n).KeysDistinct := .int n

theorem keysDistinct_opt {encode : α → Data} (h : ∀ a, (encode a).KeysDistinct) (a? : Option α) :
    (opt encode a?).KeysDistinct := by
  cases a? with
  | none => exact .null
  | some a => exact h a

theorem KeysDistinct.get?_of_mem {entries : List (String × Data)} (h : KeysDistinct (.table entries))
    {entry : String × Data} (hmem : entry ∈ entries) :
    (Data.table entries).get? entry.1 = some entry.2 := by
  cases h with
  | table hkeys _ => exact (Dict.find?_eq_some_iff ⟨entries, hkeys⟩ entry.1 entry.2).mpr hmem

/-! ## Reading what is alike -/

theorem Alike.valueAt (h : d.Alike e) (key : String) : (d.valueAt key).Alike (e.valueAt key) := by
  cases h with
  | refl => exact .refl _
  | list => exact .refl _
  | table hvalues => exact hvalues key

/-- A reader that reads nothing from null and the same from data that are alike. -/
structure Tolerant (read : Data → Option α) : Prop where
  null : read .null = none
  congr : ∀ {d e}, Alike d e → read d = read e

theorem tolerant_text : Tolerant text? where
  null := rfl
  congr h := by cases h <;> rfl

theorem tolerant_natBelow (bound : Nat) : Tolerant (natBelow? bound) where
  null := rfl
  congr h := by cases h <;> rfl

theorem Tolerant.bind (h : Tolerant read) (f : α → Option β) :
    Tolerant fun d => (read d).bind f where
  null := by rw [h.null]; rfl
  congr halike := by rw [h.congr halike]

theorem Tolerant.map (h : Tolerant read) (f : α → β) : Tolerant fun d => (read d).map f where
  null := by rw [h.null]; rfl
  congr halike := by rw [h.congr halike]

theorem Tolerant.bind_get? (h : Tolerant read) : (d.get? key).bind read = read (d.valueAt key) := by
  rw [Data.valueAt]
  cases d.get? key with
  | none => exact h.null.symm
  | some value => rfl

theorem Tolerant.get?_congr (h : Tolerant read) (halike : d.Alike e) (key : String) :
    (d.get? key).bind read = (e.get? key).bind read := by
  rw [h.bind_get?, h.bind_get?, h.congr (halike.valueAt key)]

theorem tolerant_byte : Tolerant byte? := (tolerant_natBelow _).map _

theorem tolerant_word32 : Tolerant word32? := (tolerant_natBelow _).map _

theorem tolerant_word64 : Tolerant word64? := (tolerant_natBelow _).map _

end Data

/-! ## Parts read back -/

open Data (Tolerant Alike)

section Parts

variable {d e : Data}

theorem Data.natBelow?_nat {bound n : Nat} (h : n < bound) : (Data.nat n).natBelow? bound = some n :=
  if_pos h

@[simp] theorem Data.byte?_nat (b : UInt8) : (Data.nat b.toNat).byte? = some b := by
  rw [byte?, natBelow?_nat b.toNat_lt, Option.map_some, UInt8.ofNat_toNat]

@[simp] theorem Data.word32?_nat (n : UInt32) : (Data.nat n.toNat).word32? = some n := by
  rw [word32?, natBelow?_nat n.toNat_lt, Option.map_some, UInt32.ofNat_toNat]

@[simp] theorem PlayerId.ofData?_data (id : PlayerId) : ofData? id.data = some id := by
  have hbound : id.toNat < UInt64.size := id.val.toNat_lt
  rw [ofData?, data, Data.word64?, Data.natBelow?_nat hbound, Option.map_some, toNat,
    UInt64.ofNat_toNat]
  rfl

@[simp] theorem Role.ofData?_data (r : Role) : ofData? r.data = some r := by
  rw [ofData?, data, Data.byte?_nat, Option.bind_some, ofBits?_bits]

@[simp] theorem ChannelFlags.ofData?_data (f : ChannelFlags) : ofData? f.data = some f := by
  rw [ofData?, data, Data.byte?_nat]
  rfl

@[simp] theorem Language.ofData?_code (l : Language) : ofData? (.nat l.code.toNat) = some l := by
  rw [ofData?, Data.word32?_nat]
  rfl

@[simp] theorem PlayerId.keysDistinct_data (id : PlayerId) : id.data.KeysDistinct := .int _

@[simp] theorem Role.keysDistinct_data (r : Role) : r.data.KeysDistinct := .int _

@[simp] theorem ChannelFlags.keysDistinct_data (f : ChannelFlags) : f.data.KeysDistinct := .int _

theorem tolerant_id : Tolerant PlayerId.ofData? := Data.tolerant_word64.map _

theorem tolerant_role : Tolerant Role.ofData? := Data.tolerant_byte.bind _

theorem tolerant_flags : Tolerant ChannelFlags.ofData? := Data.tolerant_byte.map _

theorem tolerant_language : Tolerant Language.ofData? := Data.tolerant_word32.map _

end Parts

/-! ## Notices -/

namespace NoticeBody

variable {d e : Data}

theorem id?_congr (h : d.Alike e) (key : String) : id? d key = id? e key :=
  tolerant_id.get?_congr h key

theorem name?_congr (h : d.Alike e) (key : String) : name? d key = name? e key :=
  Data.tolerant_text.get?_congr h key

theorem role?_congr (h : d.Alike e) (key : String) : role? d key = role? e key :=
  tolerant_role.get?_congr h key

/-- Null where an identity may be absent is read as an absent one. -/
theorem optionalId?_eq (d : Data) (key : String) :
    optionalId? d key = match d.valueAt key with
      | .null => some none
      | value => (PlayerId.ofData? value).map some := by
  rw [optionalId?, Data.valueAt]
  cases d.get? key with
  | none => rfl
  | some value => cases value <;> rfl

theorem optionalId?_congr (h : d.Alike e) (key : String) : optionalId? d key = optionalId? e key := by
  rw [optionalId?_eq, optionalId?_eq]
  have hvalue := h.valueAt key
  generalize d.valueAt key = value, e.valueAt key = value' at hvalue
  cases hvalue with
  | refl => rfl
  | list => rfl
  | table => rfl

/-- An identity written as null or as its number. -/
theorem optionalId?_opt {key : String} {id : Option PlayerId}
    (h : d.get? key = some (.opt PlayerId.data id)) : optionalId? d key = some id := by
  rw [optionalId?, h]
  cases id with
  | none => rfl
  | some id => exact congrArg (Option.map some) id.ofData?_data

theorem ofFields?_congr (h : d.Alike e) (kind : NoticeKind) : ofFields? d kind = ofFields? e kind := by
  have hflags := tolerant_flags.get?_congr h "flags"
  have hid := Data.tolerant_word32.get?_congr h "channel_id"
  have hsplit := Data.tolerant_word32.get?_congr h "split_index"
  cases kind <;>
    simp only [ofFields?, id?_congr h, name?_congr h, role?_congr h, optionalId?_congr h, hflags, hid,
      hsplit]

/-- A notice is read back from anything that has its fields. -/
theorem ofFields?_fields (body : NoticeBody) (h : ∀ field ∈ body.fields, d.get? field.1 = some field.2) :
    ofFields? d body.kind = some body := by
  cases body
  -- where an identity may be absent its field is there all the same, and may be null
  case ownerChanged | announcementsOn | announcementsOff | moderationOn | moderationOff =>
    rw [ofFields?.eq_def, kind, optionalId?_opt (h _ (List.mem_singleton_self _))]
    rfl
  all_goals
    simp only [fields, List.forall_mem_cons, List.not_mem_nil, false_imp_iff, implies_true, and_true] at h
    simp [ofFields?, kind, id?, name?, role?, h, Data.text?]

/-- No two fields of a notice share a key, and none has a key that every notice has, alone or in a
delivery. -/
theorem nodup_keys (body : NoticeBody) :
    (["at", "to", "type", "channel", "kind"] ++ body.fields.map Prod.fst).Nodup := by
  cases body <;> simp [fields]

theorem keysDistinct_field (body : NoticeBody) : ∀ field ∈ body.fields, field.2.KeysDistinct := by
  cases body <;> simp [fields, Data.keysDistinct_opt]

end NoticeBody

/-! ## Members of a list -/

namespace ListedMember

theorem tolerant_ofData? : Tolerant ofData? where
  null := rfl
  congr h := by
    rw [ofData?, ofData?, tolerant_id.get?_congr h, tolerant_role.get?_congr h]

theorem keysDistinct_data (m : ListedMember) : m.data.KeysDistinct := .table (by simp) (by simp)

@[simp] theorem ofData?_data (m : ListedMember) : ofData? m.data = some m := by
  simp [ofData?, data, Data.get?]

theorem mapM_ofData?_data (members : List ListedMember) :
    (members.map data).mapM ofData? = some members := by
  induction members with
  | nil => rfl
  | cons m members ih => simp [ih]

theorem mapM_ofData?_congr {rows rows' : List Data} (h : List.Forall₂ Alike rows rows') :
    rows.mapM ofData? = rows'.mapM ofData? := by
  induction h with
  | nil => rfl
  | cons hrow _ ih => rw [List.mapM_cons, List.mapM_cons, tolerant_ofData?.congr hrow, ih]

end ListedMember

/-! ## Messages -/

namespace Message

variable {d e : Data}

theorem nodup_delivery_keys (m : Message) : ("at" :: "to" :: m.entries.map Prod.fst).Nodup := by
  cases m with
  | notice n => simpa [entries] using n.body.nodup_keys
  | memberList l => simp [entries]
  | chat line => simp [entries]

theorem keysDistinct_entry (m : Message) : ∀ entry ∈ m.entries, entry.2.KeysDistinct := by
  cases m with
  | notice n => simpa [entries] using n.body.keysDistinct_field
  | memberList l =>
    have hrows : (Data.list (l.members.map ListedMember.data)).KeysDistinct :=
      .list (by simpa using fun m _ => m.keysDistinct_data)
    simpa [entries] using hrows
  | chat line => simp [entries]

theorem keysDistinct_data (m : Message) : m.data.KeysDistinct :=
  .table m.nodup_delivery_keys.tail.tail m.keysDistinct_entry

theorem keysDistinct_delivery (m : Message) (time : String) (recipient : PlayerId) :
    (m.delivery time recipient).KeysDistinct :=
  .table m.nodup_delivery_keys (by simpa using m.keysDistinct_entry)

/-- A message is read alike from data that are alike. -/
theorem ofData?_congr (h : d.Alike e) : ofData? d = ofData? e := by
  have htext := fun key => Data.tolerant_text.get?_congr h key
  simp only [ofData?, htext, NoticeBody.ofFields?_congr h, tolerant_flags.get?_congr h,
    tolerant_id.get?_congr h, tolerant_language.get?_congr h, Data.tolerant_byte.get?_congr h]
  refine bind_congr fun channel => bind_congr fun word => ?_
  split
  · rfl
  · -- only a list has rows, and lists that are alike have the same
    refine bind_congr fun flags => Tolerant.get?_congr ⟨rfl, fun hvalue => ?_⟩ h _
    cases hvalue with
    | refl => rfl
    | list hrows => exact congrArg (Option.bind · _) (ListedMember.mapM_ofData?_congr hrows)
    | table => rfl
  · rfl
  · rfl

/-- A message is read back from anything that has its entries. -/
theorem ofData?_of_entries {m : Message} (h : ∀ entry ∈ m.entries, d.get? entry.1 = some entry.2) :
    ofData? d = some m := by
  cases m with
  | notice n =>
    simp only [entries, List.forall_mem_append, List.forall_mem_cons, List.not_mem_nil, false_imp_iff,
      implies_true, and_true] at h
    obtain ⟨⟨htype, hchannel, hkind⟩, hfields⟩ := h
    have hbody : NoticeBody.ofFields? d n.kind = some n.body := NoticeBody.ofFields?_fields n.body hfields
    simp [ofData?, htype, hchannel, hkind, hbody, Data.text?, NoticeKind.ofWord?_word]
  | memberList l =>
    simp only [entries, List.forall_mem_cons, List.not_mem_nil, false_imp_iff, implies_true,
      and_true] at h
    obtain ⟨htype, hchannel, hflags, hmembers⟩ := h
    simp [ofData?, htype, hchannel, hflags, hmembers, Data.text?, -List.mapM_map,
      ListedMember.mapM_ofData?_data]
  | chat line =>
    simp only [entries, List.forall_mem_cons, List.not_mem_nil, false_imp_iff, implies_true,
      and_true] at h
    obtain ⟨htype, hchannel, hsender, hname, htext, hlanguage, hrank⟩ := h
    simp [ofData?, htype, hchannel, hsender, hname, htext, hlanguage, hrank, Data.text?]

theorem ofData?_data (m : Message) : ofData? m.data = some m :=
  ofData?_of_entries fun _ => m.keysDistinct_data.get?_of_mem

theorem ofData?_delivery (m : Message) (time : String) (recipient : PlayerId) :
    ofData? (m.delivery time recipient) = some m :=
  ofData?_of_entries fun _ hentry =>
    (m.keysDistinct_delivery time recipient).get?_of_mem (List.mem_append_right _ hentry)

theorem eq_of_alike_data {m m' : Message} (h : m'.data.Alike m.data) : m' = m := by
  have hread := ofData?_congr h
  rwa [ofData?_data, ofData?_data, Option.some.injEq] at hread

theorem eq_of_alike_delivery {m m' : Message} {time time' : String} {recipient recipient' : PlayerId}
    (h : (m'.delivery time' recipient').Alike (m.delivery time recipient)) :
    time' = time ∧ recipient' = recipient ∧ m' = m := by
  have htime := Data.tolerant_text.get?_congr h "at"
  have hrecipient := tolerant_id.get?_congr h "to"
  have hread := ofData?_congr h
  rw [ofData?_delivery, ofData?_delivery, Option.some.injEq] at hread
  exact ⟨by simpa [delivery, Data.get?, Data.text?] using htime,
    by simpa [delivery, Data.get?] using hrecipient, hread⟩

/-- The form of a message loses nothing, nor does the form in which it is delivered. No table of either
has a key twice, whatever the payload, and every form alike, in any order of the keys and with null
entries left out or added, is read back as the very message. So no two messages have one form, and no
two deliveries. -/
theorem form_lossless (m : Message) (time : String) (recipient : PlayerId) :
    (m.data.KeysDistinct ∧ (m.delivery time recipient).KeysDistinct) ∧
    (∀ d : Data, d.Alike m.data ∨ d.Alike (m.delivery time recipient) → ofData? d = some m) ∧
    (∀ m' : Message, m'.data.Alike m.data → m' = m) ∧
    ∀ (m' : Message) (time' : String) (recipient' : PlayerId),
      (m'.delivery time' recipient').Alike (m.delivery time recipient) →
      time' = time ∧ recipient' = recipient ∧ m' = m := by
  refine ⟨⟨m.keysDistinct_data, m.keysDistinct_delivery time recipient⟩, fun d halike => ?_,
    fun m' => eq_of_alike_data, fun m' time' recipient' => eq_of_alike_delivery⟩
  obtain halike | halike := halike
  · rw [ofData?_congr halike, ofData?_data]
  · rw [ofData?_congr halike, ofData?_delivery]

/-- A notice that the channel has no owner any more, with its keys in another order and the owner left
out. -/
theorem form_lossless_without_owner :
    let m : Message := .notice ⟨"lfg", .ownerChanged none⟩
    let d : Data := .table [("kind", .text "owner_changed"), ("channel", .text "lfg"),
      ("type", .text "notify")]
    d.Alike m.data ∧ ofData? d = some m := by
  intro m d
  have hvalue : ∀ key, d.valueAt key = (Data.table m.entries).valueAt key := by
    intro key
    simp only [d, m, entries, NoticeBody.fields, Data.opt, List.cons_append, List.nil_append,
      Data.valueAt_cons, Data.valueAt_nil]
    grind [Notice.kind, NoticeBody.kind, NoticeKind.word, NoticeKind.entry]
  have halike : d.Alike m.data := .table fun key => hvalue key ▸ .refl _
  exact ⟨halike, (form_lossless m "" ⟨0⟩).2.1 d (.inl halike)⟩

end Message

end ChatChannels
