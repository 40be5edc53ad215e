import GiftExchange.Json.Decoder
import GiftExchange.Proofs.Json.Value
import Mathlib.Data.List.Nodup
import Mathlib.Data.List.Perm.Basic

set_option autoImplicit false

/-! # What decoders read

A record is made from members of an object, one for each field of its shape (`Shape.Reads`). This is
put together field by field, as the shape itself is: once the value of a field is read, the field is.
An object with these members, in whatever order, is then read as the record (`Reads.decode`). A value
that was written as text is read as its tree is (`ofText_render`). -/

namespace GiftExchange

namespace Decoder

/-! ## Single values -/

theorem string_eq_ok_iff {t : Tree} {s : String} : string t = .ok s ↔ t = .string (some s) := by
  rcases t with _ | _ | _ | _ | (_ | found) | _ | _ <;> simp [string]

/-- A 32-bit number is read from the integers that write it. -/
theorem word_eq_ok_iff {t : Tree} {w : UInt32} :
    word t = .ok w ↔ ∃ n, t = .number n ∧ n.integer? = some (w.toNat : Int) := by
  cases t with
  | number n =>
    have hword : w.toNat < 0x100000000 := w.toNat_lt
    cases hn : n.integer? with
    | none => simp [word, hn]
    | some i =>
      simp only [word, hn]
      by_cases hi : 0 ≤ i ∧ i < 0x100000000
      · rw [if_pos hi]
        constructor
        · rintro ⟨⟩
          refine ⟨n, rfl, ?_⟩
          have hfits : i.toNat < UInt32.size := by
            rw [UInt32.size]
            omega
          rw [hn, UInt32.toNat_ofNat_of_lt' hfits, Int.toNat_of_nonneg hi.1]
        · rintro ⟨_, ⟨⟩, heq⟩
          obtain rfl : i = w.toNat := Option.some.inj (hn.symm.trans heq)
          rw [Int.toNat_natCast, UInt32.ofNat_toNat]
      · rw [if_neg hi]
        refine iff_of_false (by split <;> simp) ?_
        rintro ⟨_, ⟨⟩, heq⟩
        obtain rfl : i = w.toNat := Option.some.inj (hn.symm.trans heq)
        omega
  | _ => simp [word]

theorem named_eq_ok_iff {α : Type} {names : List (String × α)} {name : String} {a : α} :
    named names name = .ok a ↔ names.lookup name = some a := by
  unfold named
  cases names.lookup name <;> simp

/-- A named value is read from its name, or from an object with nothing but null under the name. -/
theorem variant_eq_ok_iff {α : Type} {names : List (String × α)} {t : Tree} {a : α} :
    variant names t = .ok a ↔ ∃ name, names.lookup name = some a ∧
      (t = .string (some name) ∨ t = .object [(.string (some name), .null)]) := by
  unfold variant
  split
  · rw [named_eq_ok_iff]
    simp
  · rename_i name value rest
    constructor
    · intro h
      cases hnamed : named names name with
      | error e => simp [hnamed] at h
      | ok found =>
        simp only [hnamed] at h
        split at h
        · cases h
          exact ⟨name, named_eq_ok_iff.1 hnamed, .inr rfl⟩
        · cases h
        · cases h
    · rintro ⟨_, hlookup, h | h⟩
      · cases h
      · cases h
        rw [named_eq_ok_iff.2 hlookup]
  · rename_i hstring hobject
    refine iff_of_false (by simp) ?_
    rintro ⟨name, -, rfl | rfl⟩
    · exact hstring name rfl
    · exact hobject name _ _ rfl

/-! ## Members -/

/-- Members of an object, by name. -/
def membersOf (ms : List (String × Tree)) : List (Tree × Tree) :=
  ms.map fun m => (.string (some m.1), m.2)

variable {fields : List Field} {strict : Bool} {ms : List (String × Tree)}

/-- Where no name comes twice, what is in the list is found by name. -/
theorem lookup_of_nodup (hnodup : (ms.map Prod.fst).Nodup) {m : String × Tree} (hm : m ∈ ms) :
    ms.lookup m.1 = some m.2 := by
  obtain ⟨front, behind, rfl⟩ := List.append_of_mem hm
  refine List.lookup_eq_some_iff.2 ⟨front, behind, rfl, fun other hother => ?_⟩
  rw [List.map_append, List.map_cons] at hnodup
  have hne : other.1 ≠ m.1 :=
    (List.nodup_append.1 hnodup).2.2 _ (List.mem_map_of_mem hother) _ List.mem_cons_self
  exact bne_iff_ne.2 hne.symm

/-- Members are told by their names, in order, and by what is found under them. -/
theorem eq_of_lookup {ms' : List (String × Tree)} (hnodup : (ms.map Prod.fst).Nodup)
    (hnames : ms'.map Prod.fst = ms.map Prod.fst) (h : ∀ m ∈ ms', ms.lookup m.1 = some m.2) :
    ms = ms' := by
  have hinj : Function.Injective fun m : String × Tree => (m.1, some m.2) := by
    rintro ⟨_, _⟩ ⟨_, _⟩ ⟨⟩
    rfl
  apply List.map_injective_iff.2 hinj
  calc ms.map (fun m => (m.1, some m.2))
      = (ms.map Prod.fst).map fun name => (name, ms.lookup name) := by
        rw [List.map_map]
        exact List.map_congr_left fun m hm => by simp [lookup_of_nodup hnodup hm]
    _ = (ms'.map Prod.fst).map fun name => (name, ms.lookup name) := by rw [hnames]
    _ = ms'.map fun m => (m.1, some m.2) := by
        rw [List.map_map]
        exact List.map_congr_left fun m hm => by simp [h m hm]

theorem find?_of_nodup (hnodup : (fields.map Field.name).Nodup) {field : Field}
    (hfield : field ∈ fields) : fields.find? (·.name == field.name) = some field := by
  induction fields with
  | nil => cases hfield
  | cons first rest ih =>
    obtain ⟨hfirst, hrest⟩ := List.nodup_cons.1 hnodup
    rcases List.mem_cons.1 hfield with rfl | hlater
    · exact List.find?_cons_of_pos (by simp)
    · have hne : first.name ≠ field.name := fun heq =>
        hfirst (heq ▸ List.mem_map_of_mem hlater)
      rw [List.find?_cons_of_neg (by simpa using hne), ih hrest hlater]

/-- Members that come once each, and whose values pass the checks of their fields, are all found. -/
theorem readMembers_membersOf {found : Found} (hnodup : (ms.map Prod.fst).Nodup)
    (hnew : ∀ m ∈ ms, found.lookup m.1 = none)
    (hchecked : ∀ m ∈ ms, ∃ field, fields.find? (·.name == m.1) = some field ∧
      field.check m.2 = .ok ()) :
    readMembers fields strict found (membersOf ms) = .ok (ms.reverse ++ found) := by
  induction ms generalizing found with
  | nil => rfl
  | cons m rest ih =>
    obtain ⟨key, value⟩ := m
    obtain ⟨hkey, hrest⟩ := List.nodup_cons.1 hnodup
    obtain ⟨⟨field, hfind, hcheck⟩, hcheckedRest⟩ := List.forall_mem_cons.1 hchecked
    obtain ⟨hlookup, hnewRest⟩ := List.forall_mem_cons.1 hnew
    dsimp only at hfind hcheck hlookup
    have hnewer : ∀ m ∈ rest, ((key, value) :: found : Found).lookup m.1 = none := by
      intro m hm
      have hne : (m.1 == key) = false :=
        beq_false_of_ne fun heq => hkey (List.mem_map.2 ⟨m, hm, heq⟩)
      rw [List.lookup_cons, hne]
      exact hnewRest m hm
    rw [List.reverse_cons, List.append_assoc, List.singleton_append, ← ih hrest hnewer hcheckedRest,
      membersOf, List.map_cons, readMembers, hfind]
    simp only [hlookup, hcheck, Option.isSome_none, Bool.false_eq_true, if_false]
    rfl

/-- Where only known fields are allowed, every key that is passed is a field that did not come yet. -/
theorem readMembers_strict_cons {found read : Found} {key value : Tree} {rest : List (Tree × Tree)}
    (h : readMembers fields true found ((key, value) :: rest) = .ok read) :
    ∃ name, key = .string (some name) ∧ name ∈ fields.map Field.name ∧ found.lookup name = none ∧
      readMembers fields true ((name, value) :: found) rest = .ok read := by
  rcases key with _ | _ | _ | _ | (_ | name) | _ | _
  case string.some =>
    rw [readMembers] at h
    cases hfind : fields.find? (·.name == name) with
    | none => simp [hfind] at h
    | some field =>
      have hname : field.name = name := by simpa using List.find?_some hfind
      cases hseen : found.lookup name with
      | some earlier => simp [hfind, hseen] at h
      | none =>
        cases hcheck : field.check value with
        | error e => simp [hfind, hseen, hcheck] at h
        | ok done =>
          simp only [hfind, hseen, hcheck, Option.isSome_none, Bool.false_eq_true, if_false] at h
          exact ⟨name, rfl, hname ▸ List.mem_map_of_mem (List.mem_of_find?_eq_some hfind), hseen, h⟩
  all_goals simp [readMembers] at h

/-- An object that is walked to its end so has nothing but fields, each at most once. -/
theorem membersOf_of_readMembers {found read : Found} {members : List (Tree × Tree)}
    (h : readMembers fields true found members = .ok read) :
    ∃ ms, members = membersOf ms ∧ read = ms.reverse ++ found ∧ (ms.map Prod.fst).Nodup ∧
      ∀ m ∈ ms, m.1 ∈ fields.map Field.name ∧ found.lookup m.1 = none := by
  induction members generalizing found with
  | nil =>
    cases h
    exact ⟨[], rfl, rfl, List.nodup_nil, nofun⟩
  | cons m rest ih =>
    obtain ⟨key, value⟩ := m
    obtain ⟨name, rfl, hname, hseen, hrest⟩ := readMembers_strict_cons h
    obtain ⟨ms, rfl, rfl, hnodup, hms⟩ := ih hrest
    have hnew : ∀ m ∈ ms, m.1 ≠ name ∧ found.lookup m.1 = none := by
      intro m hm
      have hlookup := (hms m hm).2
      rw [List.lookup_cons] at hlookup
      by_cases heq : m.1 = name
      · simp [heq] at hlookup
      · rw [beq_false_of_ne heq] at hlookup
        exact ⟨heq, hlookup⟩
    refine ⟨(name, value) :: ms, rfl, by simp, List.nodup_cons.2 ⟨?_, hnodup⟩,
      List.forall_mem_cons.2 ⟨⟨hname, hseen⟩, fun m hm => ⟨(hms m hm).1, (hnew m hm).2⟩⟩⟩
    intro hkey
    obtain ⟨m, hm, hsame⟩ := List.mem_map.1 hkey
    exact (hnew m hm).1 hsame

/-! ## Records -/

namespace Shape

variable {α β : Type}

/-- The members are the fields of a record, in their order: each passes the check of its field, and
whoever finds them makes this record. -/
structure Reads (shape : Shape α) (ms : List (String × Tree)) (a : α) : Prop where
  names : shape.fields.map Field.name = ms.map Prod.fst
  checked : ∀ m ∈ ms, ∃ field ∈ shape.fields, field.name = m.1 ∧ field.check m.2 = .ok ()
  built : ∀ found : Found, (∀ m ∈ ms, found.lookup m.1 = some m.2) → shape.build found = .ok a

theorem reads_pure (a : α) : (Shape.pure a).Reads [] a :=
  ⟨rfl, nofun, fun _ _ => rfl⟩

theorem Reads.and {f : Shape (α → β)} {x : Shape α} {ms ms' : List (String × Tree)} {g : α → β}
    {a : α} (hf : f.Reads ms g) (hx : x.Reads ms' a) : (f.and x).Reads (ms ++ ms') (g a) := by
  refine ⟨?_, List.forall_mem_append.2 ⟨fun m hm => ?_, fun m hm => ?_⟩, fun found hfound => ?_⟩
  · rw [Shape.and, List.map_append, List.map_append, hf.names, hx.names]
  · obtain ⟨field, hfield, hchecked⟩ := hf.checked m hm
    exact ⟨field, List.mem_append_left _ hfield, hchecked⟩
  · obtain ⟨field, hfield, hchecked⟩ := hx.checked m hm
    exact ⟨field, List.mem_append_right _ hfield, hchecked⟩
  · obtain ⟨hfront, hbehind⟩ := List.forall_mem_append.1 hfound
    simp only [Shape.and, hf.built found hfront, hx.built found hbehind]
    rfl

/-- A field is read when its value is. -/
theorem reads_field {name : String} {d : Decoder α} {mayTrail : Bool} {absent : Except Fault α}
    {t : Tree} {a : α} (h : d t = .ok a) : (field name d mayTrail absent).Reads [(name, t)] a := by
  have hcheck : (d t).map (fun _ => ()) = .ok () := by
    rw [h]
    rfl
  refine ⟨rfl, List.forall_mem_singleton.2 ⟨_, List.mem_singleton_self _, rfl, hcheck⟩,
    fun found hfound => ?_⟩
  have hlookup : found.lookup name = some t := hfound _ List.mem_cons_self
  simp only [field, hlookup, h]

/-- An object with the fields of a record, each once and in whatever order, is read as the record. -/
theorem Reads.decode {shape : Shape α} {ms : List (String × Tree)} {a : α}
    (h : shape.Reads ms a) (hnodup : (shape.fields.map Field.name).Nodup)
    {members : List (String × Tree)} (hperm : members.Perm ms) (strict : Bool) :
    shape.decode strict (.object (membersOf members)) = .ok a := by
  have hmembers : (members.map Prod.fst).Nodup := by
    rw [(hperm.map Prod.fst).nodup_iff, ← h.names]
    exact hnodup
  have hread : readMembers shape.fields strict [] (membersOf members) =
      .ok (members.reverse ++ []) := by
    refine readMembers_membersOf hmembers (fun _ _ => rfl) fun m hm => ?_
    obtain ⟨field, hfield, hname, hcheck⟩ := h.checked m (hperm.mem_iff.1 hm)
    exact ⟨field, hname ▸ find?_of_nodup hnodup hfield, hcheck⟩
  rw [Shape.decode, hread, List.append_nil]
  refine h.built _ fun m hm => ?_
  refine lookup_of_nodup ?_ (List.mem_reverse.2 (hperm.mem_iff.2 hm))
  rw [List.map_reverse]
  exact List.pairwise_reverse.2 (hmembers.imp Ne.symm)

/-- Whatever makes a record of this shape has found the fields of the record. -/
def Needs (shape : Shape α) : Prop :=
  ∀ (found : Found) (a : α), shape.build found = .ok a →
    ∃ ms, shape.Reads ms a ∧ ∀ m ∈ ms, found.lookup m.1 = some m.2

theorem needs_pure (a : α) : (Shape.pure a).Needs := by
  rintro found _ ⟨⟩
  exact ⟨[], reads_pure a, nofun⟩

theorem build_and_eq_ok_iff {f : Shape (α → β)} {x : Shape α} {found : Found} {b : β} :
    (f.and x).build found = .ok b ↔
      ∃ g a, f.build found = .ok g ∧ x.build found = .ok a ∧ b = g a := by
  simp only [Shape.and]
  cases f.build found with
  | error e => simp
  | ok g =>
    cases x.build found with
    | error e => simp [Except.map]
    | ok a => simp [Except.map, eq_comm]

theorem build_required_eq_ok_iff {name : String} {d : Decoder α} {found : Found} {a : α} :
    (required name d).build found = .ok a ↔ ∃ t, found.lookup name = some t ∧ d t = .ok a := by
  simp only [required, field]
  cases found.lookup name <;> simp

theorem Needs.and {f : Shape (α → β)} {x : Shape α} (hf : f.Needs) (hx : x.Needs) :
    (f.and x).Needs := by
  intro found b h
  obtain ⟨g, a, hg, ha, rfl⟩ := build_and_eq_ok_iff.1 h
  obtain ⟨ms, hms, hfound⟩ := hf found g hg
  obtain ⟨ms', hms', hfound'⟩ := hx found a ha
  exact ⟨ms ++ ms', hms.and hms', List.forall_mem_append.2 ⟨hfound, hfound'⟩⟩

theorem needs_required (name : String) (d : Decoder α) : (required name d).Needs := by
  intro found a h
  obtain ⟨t, hlookup, ht⟩ := build_required_eq_ok_iff.1 h
  exact ⟨[(name, t)], reads_field ht, List.forall_mem_singleton.2 hlookup⟩

/-- Where all fields are needed and no others are allowed, an object is read as a record exactly if
it has the fields of the record, each once and in whatever order. -/
theorem Needs.decode_eq_ok_iff {shape : Shape α} (hneeds : shape.Needs)
    (hnodup : (shape.fields.map Field.name).Nodup) {members : List (Tree × Tree)} {a : α} :
    shape.decode true (.object members) = .ok a ↔
      ∃ written ms, members = membersOf written ∧ written.Perm ms ∧ shape.Reads ms a := by
  constructor
  · intro h
    rw [Shape.decode] at h
    cases hread : readMembers shape.fields true [] members with
    | error e => simp [hread] at h
    | ok read =>
      obtain ⟨written, hmembers, rfl, hwritten, hknown⟩ := membersOf_of_readMembers hread
      rw [hread] at h
      obtain ⟨ms, hreads, hfound⟩ := hneeds _ a h
      have hms : (ms.map Prod.fst).Nodup := hreads.names ▸ hnodup
      have hsub : ∀ m ∈ ms, m ∈ written := by
        intro m hm
        obtain ⟨front, behind, hsplit, -⟩ := List.lookup_eq_some_iff.1 (hfound m hm)
        have hmem : m ∈ written.reverse ++ [] := by
          rw [hsplit]
          exact List.mem_append_right _ List.mem_cons_self
        simpa using hmem
      refine ⟨written, ms, hmembers, ?_, hreads⟩
      rw [List.perm_ext_iff_of_nodup (List.Nodup.of_map _ hwritten) (List.Nodup.of_map _ hms)]
      refine fun m => ⟨fun hm => ?_, hsub m⟩
      -- a field with this name is among those of the record, and it is the same one
      obtain ⟨other, hother, hname⟩ := List.mem_map.1 (hreads.names ▸ (hknown m hm).1)
      rwa [← List.inj_on_of_nodup_map hwritten (hsub other hother) hm hname]
  · rintro ⟨written, ms, rfl, hperm, hreads⟩
    exact hreads.decode hnodup hperm true

end Shape

/-! ## Values that were written -/

variable {α : Type}

/-- The decoder reads every value from what is written for it. -/
def Inverts (d : Decoder α) (write : α → Json) : Prop :=
  ∀ a, d (write a).toTree = .ok a

theorem inverts_string : Inverts string Json.string := fun _ => rfl

theorem optional_of_ne_null {d : Decoder α} {t : Tree} (h : t ≠ .null) :
    optional d t = (d t).map some := by
  cases t with
  | null => exact absurd rfl h
  | _ => rfl

/-- A value that may be missing is read, if null is written for no other. -/
theorem Inverts.optional {d : Decoder α} {write : α → Json} (h : Inverts d write)
    (hnull : ∀ a, (write a).toTree ≠ .null) : Inverts (optional d) (Json.ofOption write) := by
  intro value
  cases value with
  | none => rfl
  | some a =>
    rw [Json.ofOption, optional_of_ne_null (hnull a), h a]
    rfl

/-- A list is read when each of its items is. -/
theorem mapM_eq_ok {d : Decoder α} {items : List Tree} {l : List α}
    (h : List.Forall₂ (fun t a => d t = .ok a) items l) : items.mapM d = .ok l := by
  induction h with
  | nil => rfl
  | cons ha _ ih =>
    rw [List.mapM_cons, ha, ih]
    rfl

/-- A list is read up to the first item that is refused. -/
theorem mapM_append_of_error {d : Decoder α} {front behind : List Tree} {item : Tree} {fault : Fault}
    (hfront : ∀ t ∈ front, ∃ a, d t = .ok a) (hitem : d item = .error fault) :
    (front ++ item :: behind).mapM d = .error fault := by
  induction front with
  | nil =>
    rw [List.nil_append, List.mapM_cons, hitem]
    rfl
  | cons t rest ih =>
    obtain ⟨⟨a, ha⟩, hrest⟩ := List.forall_mem_cons.1 hfront
    rw [List.cons_append, List.mapM_cons, ha, ih hrest]
    rfl

theorem mapM_itemTrees {d : Decoder α} {write : α → Json} {l : List α}
    (h : ∀ a ∈ l, d (write a).toTree = .ok a) :
    (Json.itemTrees (l.map write)).mapM d = .ok l := by
  induction l with
  | nil => rfl
  | cons a rest ih =>
    obtain ⟨ha, hrest⟩ := List.forall_mem_cons.1 h
    rw [List.map_cons, Json.itemTrees, List.mapM_cons, ha, ih hrest]
    rfl

theorem Inverts.list {d : Decoder α} {write : α → Json} (h : Inverts d write) :
    Inverts (list d) fun l => .array (l.map write) :=
  fun _ => mapM_itemTrees fun a _ => h a

/-- Reading a text that writes a tree is reading the tree. -/
theorem ofText_of_writes (d : Decoder α) {t : Tree} {text : String} (h : t.Writes text) :
    d.ofText text = d t := by
  rw [Decoder.ofText, Tree.ofText_of_writes h]
  cases d t <;> rfl

theorem ofText_render (d : Decoder α) (v : Json) : d.ofText v.render = d v.toTree :=
  ofText_of_writes d v.writes_render

end Decoder

end GiftExchange
