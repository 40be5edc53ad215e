import GiftExchange.Files.Tree
import GiftExchange.Proofs.Files.Path

set_option autoImplicit false

/-! # Where paths lead

A tree of files is known by what stands at the end of names that lead down from its root (`kind?`).
A path leads from names to names: along a part that is no step nothing changes, two dots drop the
last name, and a name is put at the end. `Way` is this relation, with a condition on every directory
that is entered by name; the parts alone settle where it leads. A walk from a spot in the tree
follows the way on which each name is that of a directory (`Leads`), and is blocked at the first part
that is an obstacle (`Blocked`). -/

namespace GiftExchange

namespace FileTree

/-! ## What stands in a tree -/

/-- A file with its bytes, or a directory whatever it holds. -/
inductive Kind where
  | file (bytes : ByteArray)
  | directory

def Entry.kind : Entry → Kind
  | .file bytes => .file bytes
  | .directory _ => .directory

/-- What stands at the end of names that lead down from an entry. -/
def Entry.find? : Entry → List String → Option Entry
  | e, [] => some e
  | .file _, _ :: _ => none
  | .directory d, name :: rest => (d.lookup name).bind fun e => e.find? rest

/-- What stands in a tree at the end of names. -/
def kind? (t : FileTree) (names : List String) : Option Kind :=
  ((Entry.directory t.root).find? names).map Entry.kind

/-- Names that lead down to a directory. -/
def IsDirectory (t : FileTree) (names : List String) : Prop := t.kind? names = some .directory

theorem Entry.find?_append (e : Entry) (front rest : List String) :
    e.find? (front ++ rest) = (e.find? front).bind fun e => e.find? rest := by
  induction front generalizing e with
  | nil => rfl
  | cons name front ih =>
    cases e with
    | file bytes => rfl
    | directory d =>
      rw [List.cons_append, find?, find?, Option.bind_assoc]
      exact congrArg _ (funext fun e => ih e)

variable {t : FileTree} {names parts target : List String} {part name : String} {s s' : Spot}
  {ok ok' : List String → Prop}

/-! ## Ways -/

/-- A way along parts that leads from names to names, where every directory entered by name is
`ok`. -/
inductive Way (ok : List String → Prop) : List String → List String → List String → Prop where
  | here (names : List String) : Way ok names [] names
  | stay {names rest target : List String} {part : String} (hpart : Path.isStep part = false)
      (h : Way ok names rest target) : Way ok names (part :: rest) target
  | up {names rest target : List String} {part : String} (hpart : part = "..")
      (h : Way ok names.dropLast rest target) : Way ok names (part :: rest) target
  | down {names rest target : List String} {part : String} (hpart : Path.isName part = true)
      (hok : ok (names ++ [part])) (h : Way ok (names ++ [part]) rest target) :
      Way ok names (part :: rest) target

/-- Parts that lead from the root to names, through directories. -/
def Leads (t : FileTree) (parts names : List String) : Prop := Way t.IsDirectory [] parts names

theorem Way.mono (hok : ∀ names, ok names → ok' names) (h : Way ok names parts target) :
    Way ok' names parts target := by
  induction h with
  | here names => exact .here names
  | stay hpart h ih => exact .stay hpart ih
  | up hpart h ih => exact .up hpart ih
  | down hpart hname h ih => exact .down hpart (hok _ hname) ih

theorem Way.append {front rest mid : List String} (h : Way ok names front mid)
    (h' : Way ok mid rest target) : Way ok names (front ++ rest) target := by
  induction h with
  | here names => exact h'
  | stay hpart h ih => exact .stay hpart (ih h')
  | up hpart h ih => exact .up hpart (ih h')
  | down hpart hname h ih => exact .down hpart hname (ih h')

theorem Way.exists_of_append {front rest : List String} (h : Way ok names (front ++ rest) target) :
    ∃ mid, Way ok names front mid ∧ Way ok mid rest target := by
  induction front generalizing names with
  | nil => exact ⟨names, .here names, h⟩
  | cons part front ih =>
    cases h with
    | stay hpart h =>
      obtain ⟨mid, hfront, hrest⟩ := ih h
      exact ⟨mid, .stay hpart hfront, hrest⟩
    | up hpart h =>
      obtain ⟨mid, hfront, hrest⟩ := ih h
      exact ⟨mid, .up hpart hfront, hrest⟩
    | down hpart hname h =>
      obtain ⟨mid, hfront, hrest⟩ := ih h
      exact ⟨mid, .down hpart hname hfront, hrest⟩

theorem Way.dropLast (h : Way ok names parts target) : ∃ mid, Way ok names parts.dropLast mid := by
  rcases List.eq_nil_or_concat' parts with rfl | ⟨front, part, rfl⟩
  · exact ⟨names, .here names⟩
  · obtain ⟨mid, hfront, -⟩ := h.exists_of_append
    rw [List.dropLast_concat]
    exact ⟨mid, hfront⟩

section Parts

variable {rest : List String}

theorem way_stay_iff (h : Path.isStep part = false) :
    Way ok names (part :: rest) target ↔ Way ok names rest target := by
  refine ⟨fun hway => ?_, .stay h⟩
  cases hway with
  | stay _ hrest => exact hrest
  | up hup _ => exact absurd h (by rw [hup]; decide)
  | down hname _ _ => exact absurd h (by rw [Path.isStep_of_isName hname]; decide)

theorem way_up_iff : Way ok names (".." :: rest) target ↔ Way ok names.dropLast rest target := by
  refine ⟨fun hway => ?_, .up rfl⟩
  generalize hup : ".." = part at hway
  cases hway with
  | stay hstay _ => exact absurd hstay (by rw [← hup]; decide)
  | up _ hrest => exact hrest
  | down hname _ _ => exact absurd hup.symm (Path.ne_up_of_isName hname)

theorem way_down_iff (h : Path.isName part = true) :
    Way ok names (part :: rest) target ↔
      ok (names ++ [part]) ∧ Way ok (names ++ [part]) rest target := by
  refine ⟨fun hway => ?_, fun hway => .down h hway.1 hway.2⟩
  cases hway with
  | stay hstay _ => exact absurd hstay (by rw [Path.isStep_of_isName h]; decide)
  | up hup _ => exact absurd hup (Path.ne_up_of_isName h)
  | down _ hok hrest => exact ⟨hok, hrest⟩

theorem not_way_of_isLongPart (h : Path.isLongPart part = true) :
    ¬Way ok names (part :: rest) target := by
  intro hway
  cases hway with
  | stay hstay _ => exact absurd hstay (by rw [Path.isStep_of_isLongPart h]; decide)
  | up hup _ => exact Path.ne_up_of_isLongPart h hup
  | down hname _ _ => exact absurd h (by rw [Path.isLongPart_of_isName hname]; decide)

end Parts

/-- The parts settle where a way leads, whatever is asked of the directories. -/
theorem Way.target_eq {target' : List String} (h : Way ok names parts target)
    (h' : Way ok' names parts target') : target = target' := by
  induction h with
  | here names =>
    cases h'
    rfl
  | stay hpart h ih => exact ih ((way_stay_iff hpart).1 h')
  | up hpart h ih =>
    subst hpart
    exact ih (way_up_iff.1 h')
  | down hpart hname h ih => exact ih ((way_down_iff hpart).1 h').2

/-- Behind parts that lead somewhere a way goes on from there. -/
theorem Way.rest_of_append {front rest mid : List String} (hfront : Way ok' names front mid)
    (h : Way ok names (front ++ rest) target) : Way ok mid rest target := by
  obtain ⟨mid', hfront', hrest⟩ := h.exists_of_append
  rwa [hfront.target_eq hfront']

/-- Parts that are no steps can be left out. -/
theorem way_filter_iff :
    Way ok names (parts.filter Path.isStep) target ↔ Way ok names parts target := by
  induction parts generalizing names with
  | nil => rfl
  | cons part rest ih =>
    rcases Path.part_cases part with hstay | rfl | hlong | hname
    · rw [List.filter_cons_of_neg (by rw [hstay]; decide), way_stay_iff hstay, ih]
    · rw [List.filter_cons_of_pos (by decide), way_up_iff, way_up_iff, ih]
    · rw [List.filter_cons_of_pos (Path.isStep_of_isLongPart hlong)]
      exact iff_of_false (not_way_of_isLongPart hlong) (not_way_of_isLongPart hlong)
    · rw [List.filter_cons_of_pos (Path.isStep_of_isName hname), way_down_iff hname,
        way_down_iff hname, ih]

/-! ## Spots -/

/-- The spot in a tree at the end of names. -/
inductive Spot.At (t : FileTree) : List String → Spot → Prop where
  | root : At t [] ⟨t.root, []⟩
  | down {names : List String} {s : Spot} {name : String} {entries : Directory} (h : At t names s)
      (found : s.entries.lookup name = some (.directory entries)) :
      At t (names ++ [name]) (s.down name entries)

theorem Spot.At.find? (h : At t names s) :
    (Entry.directory t.root).find? names = some (.directory s.entries) := by
  induction h with
  | root => rfl
  | @down names s name entries h found ih =>
    rw [Entry.find?_append, ih, Option.bind_some, Entry.find?, found]
    rfl

/-- What a spot holds is what stands behind its names. -/
theorem Spot.At.kind?_append (h : At t names s) (rest : List String) :
    t.kind? (names ++ rest) = ((Entry.directory s.entries).find? rest).map Entry.kind := by
  rw [kind?, Entry.find?_append, h.find?, Option.bind_some]

theorem Spot.At.kind?_concat (h : At t names s) (name : String) :
    t.kind? (names ++ [name]) = (s.entries.lookup name).map Entry.kind := by
  rw [h.kind?_append, Entry.find?]
  cases s.entries.lookup name <;> rfl

theorem Spot.At.isDirectory_iff (h : At t names s) {name : String} :
    t.IsDirectory (names ++ [name]) ↔
      ∃ entries, s.entries.lookup name = some (.directory entries) := by
  rw [IsDirectory, h.kind?_concat]
  rcases s.entries.lookup name with _ | ⟨bytes⟩ | ⟨entries⟩ <;> simp [Entry.kind]

theorem Spot.At.up (h : At t names s) : At t names.dropLast s.up := by
  cases h with
  | root => exact .root
  | down h found =>
    rw [List.dropLast_concat]
    exact h

/-! ## Walks -/

theorem Spot.walk_stay (h : Path.isStep part = false) : s.walk (part :: parts) = s.walk parts := by
  rw [walk, h]
  rfl

theorem Spot.walk_up : s.walk (".." :: parts) = s.up.walk parts := rfl

theorem Spot.walk_long (h : Path.isLongPart part = true) :
    s.walk (part :: parts) = .error .nameTooLong := by
  rw [walk, Path.isStep_of_isLongPart h, if_neg (by decide), if_neg (Path.ne_up_of_isLongPart h),
    if_pos h]

theorem Spot.walk_down (h : Path.isName part = true) :
    s.walk (part :: parts) =
      match s.entries.lookup part with
      | some (.directory entries) => (s.down part entries).walk parts
      | some (.file _) => .error .notDirectory
      | none => .error .notFound := by
  rw [walk, Path.isStep_of_isName h, if_neg (by decide), if_neg (Path.ne_up_of_isName h),
    Path.isLongPart_of_isName h]
  exact if_neg (by decide)

/-- Why a part does not lead from names to a directory below. -/
inductive Obstacle (t : FileTree) (names : List String) (part : String) : FileError → Prop where
  | long (h : Path.isLongPart part = true) : Obstacle t names part .nameTooLong
  | file {bytes : ByteArray} (hname : Path.isName part = true)
      (h : t.kind? (names ++ [part]) = some (.file bytes)) : Obstacle t names part .notDirectory
  | nothing (hname : Path.isName part = true) (h : t.kind? (names ++ [part]) = none) :
      Obstacle t names part .notFound

/-- Parts that lead to an obstacle. -/
def Blocked (t : FileTree) (names parts : List String) (e : FileError) : Prop :=
  ∃ front part rest mid, parts = front ++ part :: rest ∧ Way t.IsDirectory names front mid ∧
    t.Obstacle mid part e

/-- A part that is walked first: it leads on, or the walk ends at it. -/
theorem Spot.At.walk_cons (h : At t names s) (part : String) (rest : List String) :
    (∃ mid s', Way t.IsDirectory names [part] mid ∧ At t mid s' ∧
        s.walk (part :: rest) = s'.walk rest) ∨
      ∃ e, t.Obstacle names part e ∧ s.walk (part :: rest) = .error e := by
  rcases Path.part_cases part with hstay | rfl | hlong | hname
  · exact .inl ⟨names, s, .stay hstay (.here names), h, walk_stay hstay⟩
  · exact .inl ⟨names.dropLast, s.up, .up rfl (.here _), h.up, walk_up⟩
  · exact .inr ⟨_, .long hlong, walk_long hlong⟩
  · have hkind := h.kind?_concat part
    rw [walk_down hname]
    cases hfound : s.entries.lookup part with
    | none => exact .inr ⟨_, .nothing hname (by rw [hkind, hfound]; rfl), rfl⟩
    | some found =>
      cases found with
      | file bytes => exact .inr ⟨_, .file hname (by rw [hkind, hfound]; rfl), rfl⟩
      | directory entries =>
        have hdirectory := h.isDirectory_iff.2 ⟨entries, hfound⟩
        exact .inl ⟨_, _, .down hname hdirectory (.here _), h.down hfound, rfl⟩

/-- No part leads on and is an obstacle. -/
theorem Obstacle.not_way {e : FileError} {rest : List String} (h : t.Obstacle names part e) :
    ¬Way t.IsDirectory names (part :: rest) target := by
  cases h with
  | long hlong => exact not_way_of_isLongPart hlong
  | file hname hfile =>
    rw [way_down_iff hname, IsDirectory, hfile]
    rintro ⟨⟨⟩, -⟩
  | nothing hname hnone =>
    rw [way_down_iff hname, IsDirectory, hnone]
    rintro ⟨⟨⟩, -⟩

theorem Obstacle.error_eq {e e' : FileError} (h : t.Obstacle names part e)
    (h' : t.Obstacle names part e') : e = e' := by
  cases h with
  | long hlong =>
    cases h' with
    | long => rfl
    | file hname _ | nothing hname _ =>
      exact absurd hlong (by rw [Path.isLongPart_of_isName hname]; decide)
  | file hname hfile =>
    cases h' with
    | long hlong => exact absurd hlong (by rw [Path.isLongPart_of_isName hname]; decide)
    | file => rfl
    | nothing _ hnone => cases hfile.symm.trans hnone
  | nothing hname hnone =>
    cases h' with
    | long hlong => exact absurd hlong (by rw [Path.isLongPart_of_isName hname]; decide)
    | file _ hfile => cases hfile.symm.trans hnone
    | nothing => rfl

/-- A walk comes to the spot where its way leads, or is blocked. -/
theorem Spot.At.walk_cases (h : At t names s) (parts : List String) :
    (∃ target s', Way t.IsDirectory names parts target ∧ At t target s' ∧ s.walk parts = .ok s') ∨
      ∃ e, t.Blocked names parts e ∧ s.walk parts = .error e := by
  induction parts generalizing names s with
  | nil => exact .inl ⟨names, s, .here names, h, rfl⟩
  | cons part rest ih =>
    obtain ⟨mid, s', hfirst, hmid, hwalk⟩ | ⟨e, hobstacle, hwalk⟩ := h.walk_cons part rest
    · rw [hwalk]
      obtain ⟨target, s'', hrest, htarget, hwalk⟩ | ⟨e, ⟨front, last, behind, there, rfl, hfront,
        hobstacle⟩, hwalk⟩ := ih hmid
      · exact .inl ⟨target, s'', hfirst.append hrest, htarget, hwalk⟩
      · exact .inr ⟨e, ⟨part :: front, last, behind, there, rfl, hfirst.append hfront, hobstacle⟩,
          hwalk⟩
    · exact .inr ⟨e, ⟨[], part, rest, names, rfl, .here names, hobstacle⟩, hwalk⟩

/-- What is walked along a way is walked on from where it leads. -/
theorem Way.walk {front mid : List String} (hway : Way t.IsDirectory names front mid)
    (h : Spot.At t names s) (rest : List String) :
    ∃ s', Spot.At t mid s' ∧ s.walk (front ++ rest) = s'.walk rest := by
  induction hway generalizing s with
  | here names => exact ⟨s, h, rfl⟩
  | stay hpart hway ih =>
    rw [List.cons_append, Spot.walk_stay hpart]
    exact ih h
  | up hpart hway ih =>
    rw [List.cons_append, hpart, Spot.walk_up]
    exact ih h.up
  | down hpart hdirectory hway ih =>
    obtain ⟨entries, hfound⟩ := h.isDirectory_iff.1 hdirectory
    rw [List.cons_append, Spot.walk_down hpart, hfound]
    exact ih (h.down hfound)

theorem Leads.enter (h : t.Leads parts names) :
    ∃ s, Spot.At t names s ∧ t.enter parts = .ok s := by
  obtain ⟨s, hs, hwalk⟩ := h.walk .root []
  rw [List.append_nil] at hwalk
  exact ⟨s, hs, hwalk⟩

theorem leads_of_enter (h : t.enter parts = .ok s) :
    ∃ names, t.Leads parts names ∧ Spot.At t names s := by
  obtain ⟨names, s', hway, hs', hwalk⟩ | ⟨e, -, hwalk⟩ := Spot.At.root.walk_cases parts
  · cases hwalk.symm.trans h
    exact ⟨names, hway, hs'⟩
  · cases hwalk.symm.trans h

theorem enter_eq_error_iff {e : FileError} : t.enter parts = .error e ↔ t.Blocked [] parts e := by
  constructor
  · intro h
    obtain ⟨names, s, -, -, hwalk⟩ | ⟨e', hblocked, hwalk⟩ := Spot.At.root.walk_cases parts
    · cases hwalk.symm.trans h
    · cases hwalk.symm.trans h
      exact hblocked
  · rintro ⟨front, part, rest, mid, rfl, hfront, hobstacle⟩
    obtain ⟨s, hs, hwalk⟩ := hfront.walk .root (part :: rest)
    obtain ⟨_, _, hfirst, -, -⟩ | ⟨e', hobstacle', herror⟩ := hs.walk_cons part rest
    · exact absurd hfirst hobstacle.not_way
    · rw [hobstacle.error_eq hobstacle']
      exact hwalk.trans herror

theorem isDirectory_iff : t.isDirectory parts = true ↔ ∃ names, t.Leads parts names := by
  unfold isDirectory
  constructor
  · intro h
    cases henter : t.enter parts with
    | error e =>
      rw [henter] at h
      cases h
    | ok s =>
      obtain ⟨names, hleads, -⟩ := leads_of_enter henter
      exact ⟨names, hleads⟩
  · rintro ⟨names, hleads⟩
    obtain ⟨s, -, henter⟩ := hleads.enter
    rw [henter]

/-- Parts that are blocked lead nowhere. -/
theorem Blocked.not_isDirectory {e : FileError} (h : t.Blocked [] parts e) :
    t.isDirectory parts = false := by
  rw [isDirectory, enter_eq_error_iff.2 h]

/-! ## The last part -/

theorem lastFound?_concat (h : Path.isName name = true) :
    lastFound? s (parts ++ [name]) = s.entries.lookup name := by
  rw [lastFound?, List.getLast?_concat, Option.filter_some, if_pos h, Option.bind_some]

theorem lastFound?_of_not_name (h : Path.isName name = false) :
    lastFound? s (parts ++ [name]) = none := by
  rw [lastFound?, List.getLast?_concat, Option.filter_some, h, if_neg (by decide), Option.bind_none]

end FileTree

end GiftExchange
