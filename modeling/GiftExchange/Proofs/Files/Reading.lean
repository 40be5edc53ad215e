import GiftExchange.Proofs.Document.Settings
import GiftExchange.Proofs.Files.Walk

set_option autoImplicit false

/-! # What is read at a path

A path names a file when all its parts but the last lead to a directory in which the last is the
name of a file. Whatever else it is, there is one reason why nothing can be read: it leads to a
directory, or an obstacle stands on the way (`Reads`). A text is read where the bytes of the file are
one, and settings are read from that text and nothing else. -/

namespace GiftExchange

namespace FileTree

/-- What reading at the end of parts gives: the bytes of a file, or the reason why there are none. -/
inductive Reads (t : FileTree) : List String → Except FileError ByteArray → Prop where
  | file {front names : List String} {name : String} {bytes : ByteArray}
      (hfront : t.Leads front names) (hname : Path.isName name = true)
      (h : t.kind? (names ++ [name]) = some (.file bytes)) :
      Reads t (front ++ [name]) (.ok bytes)
  | directory {parts names : List String} (h : t.Leads parts names) :
      Reads t parts (.error .isDirectory)
  | nothing {front names : List String} {name : String} (hfront : t.Leads front names)
      (hname : Path.isName name = true) (h : t.kind? (names ++ [name]) = none) :
      Reads t (front ++ [name]) (.error .notFound)
  | long {front names : List String} {name : String} (hfront : t.Leads front names)
      (h : Path.isLongPart name = true) : Reads t (front ++ [name]) (.error .nameTooLong)
  | blocked {front : List String} {last : String} {e : FileError} (h : t.Blocked [] front e) :
      Reads t (front ++ [last]) (.error e)

variable {t : FileTree} {parts names : List String} {name : String} {s : Spot}

theorem not_isDirectory_of_obstacle {e : FileError} (hfront : t.Leads parts names)
    (h : t.Obstacle names name e) : t.isDirectory (parts ++ [name]) = false := by
  rw [← Bool.not_eq_true, isDirectory_iff]
  rintro ⟨target, hway⟩
  exact h.not_way (Way.rest_of_append hfront hway)

/-- A directory is found to be none of the files in the directory before it. -/
theorem lastFound?_ne_file {target : List String} {bytes : ByteArray} (hs : Spot.At t names s)
    (h : Way t.IsDirectory names [name] target) :
    lastFound? s (parts ++ [name]) ≠ some (.file bytes) := by
  intro hfound
  by_cases hname : Path.isName name = true
  · rw [lastFound?_concat hname] at hfound
    have hkind : t.kind? (names ++ [name]) = some (.file bytes) := by
      rw [hs.kind?_concat, hfound]
      rfl
    exact (Obstacle.file hname hkind).not_way h
  · rw [lastFound?_of_not_name (eq_false_of_ne_true hname)] at hfound
    cases hfound

theorem Reads.readBytes_eq {r : Except FileError ByteArray} (h : t.Reads parts r) :
    t.readBytes parts = r := by
  cases h with
  | file hfront hname hfile =>
    obtain ⟨s, hs, henter⟩ := hfront.enter
    rw [hs.kind?_concat, Option.map_eq_some_iff] at hfile
    obtain ⟨found, hfound, hkind⟩ := hfile
    cases found with
    | file bytes =>
      cases hkind
      rw [readBytes, List.dropLast_concat, henter]
      simp only [lastFound?_concat hname, hfound]
    | directory entries => cases hkind
  | @directory _ names hleads =>
    have hdirectory : t.isDirectory parts = true := isDirectory_iff.2 ⟨names, hleads⟩
    rcases List.eq_nil_or_concat' parts with rfl | ⟨front, name, rfl⟩
    · rfl
    · obtain ⟨mid, hfront, hlast⟩ := Way.exists_of_append hleads
      obtain ⟨s, hs, henter⟩ := Leads.enter hfront
      rw [readBytes, List.dropLast_concat, henter]
      simp only [hdirectory, if_true]
      split
      · rename_i bytes hfound
        exact absurd hfound (lastFound?_ne_file hs hlast)
      · rfl
  | @nothing front names name hfront hname hnone =>
    obtain ⟨s, hs, henter⟩ := hfront.enter
    have hnot := not_isDirectory_of_obstacle hfront (.nothing hname hnone)
    rw [hs.kind?_concat, Option.map_eq_none_iff] at hnone
    rw [readBytes, List.dropLast_concat, henter]
    simp [lastFound?_concat hname, hnone, hnot, absence, Path.isLongPart_of_isName hname]
  | @long front names name hfront hlong =>
    obtain ⟨s, hs, henter⟩ := hfront.enter
    have hnot := not_isDirectory_of_obstacle hfront (.long hlong)
    have hname : Path.isName name = false := by simp [Path.isName, hlong]
    rw [readBytes, List.dropLast_concat, henter]
    simp [lastFound?_of_not_name hname, hnot, absence, hlong]
  | blocked hblocked =>
    rw [readBytes, List.dropLast_concat, enter_eq_error_iff.2 hblocked]

theorem exists_reads (t : FileTree) (parts : List String) : ∃ r, t.Reads parts r := by
  rcases List.eq_nil_or_concat' parts with rfl | ⟨front, name, rfl⟩
  · exact ⟨_, .directory (.here [])⟩
  · cases henter : t.enter front with
    | error e => exact ⟨_, .blocked (enter_eq_error_iff.1 henter)⟩
    | ok s =>
      obtain ⟨names, hfront, hs⟩ := leads_of_enter henter
      obtain ⟨target, _, hlast, -, -⟩ | ⟨e, hobstacle, -⟩ := hs.walk_cons name []
      · exact ⟨_, .directory (hfront.append hlast)⟩
      · cases hobstacle with
        | long hlong => exact ⟨_, .long hfront hlong⟩
        | file hname hfile => exact ⟨_, .file hfront hname hfile⟩
        | nothing hname hnone => exact ⟨_, .nothing hfront hname hnone⟩

/-- What is read at the end of parts is what stands there. -/
theorem readBytes_eq_iff {r : Except FileError ByteArray} :
    t.readBytes parts = r ↔ t.Reads parts r := by
  refine ⟨?_, Reads.readBytes_eq⟩
  rintro rfl
  obtain ⟨r, hr⟩ := t.exists_reads parts
  rwa [hr.readBytes_eq]

/-! ## Texts -/

/-- The file at a path holds a text. -/
def HasText (t : FileTree) (path text : String) : Prop :=
  refusal? path = none ∧ t.Reads (t.partsOf path) (.ok text.toUTF8)

/-- Why no text is read at a path. -/
inductive Unreadable (t : FileTree) : String → FileError → Prop where
  | refused {path : String} {e : FileError} (h : refusal? path = some e) : Unreadable t path e
  | empty : Unreadable t "" .notFound
  | unread {path : String} {e : FileError} (hpath : refusal? path = none) (hempty : path ≠ "")
      (h : t.Reads (t.partsOf path) (.error e)) : Unreadable t path e
  | binary {path : String} {bytes : ByteArray} (hpath : refusal? path = none)
      (h : t.Reads (t.partsOf path) (.ok bytes)) (hbytes : ¬bytes.IsValidUTF8) :
      Unreadable t path .notText

variable {path text : String}

/-- The empty path names no file. -/
theorem ne_empty_of_reads {bytes : ByteArray} (h : t.Reads (t.partsOf path) (.ok bytes)) :
    path ≠ "" := by
  rintro rfl
  have hparts : t.partsOf "" = t.working ++ [""] := rfl
  rw [hparts] at h
  generalize hall : t.working ++ [""] = all at h
  cases h with
  | @file front names name bytes hfront hname hfile =>
    obtain ⟨-, hlast⟩ := List.append_inj' hall rfl
    obtain rfl := List.singleton_inj.1 hlast
    exact absurd hname (by decide)

theorem readText_of_reads {bytes : ByteArray} (hpath : refusal? path = none)
    (h : t.Reads (t.partsOf path) (.ok bytes)) :
    t.readText path =
      match String.fromUTF8? bytes with
      | some text => .ok text
      | none => .error .notText := by
  have hempty : path.isEmpty = false := by simpa using ne_empty_of_reads h
  rw [readText, hpath]
  simp only [hempty, readBytes_eq_iff.2 h]
  rfl

theorem HasText.readText_eq (h : t.HasText path text) : t.readText path = .ok text := by
  have hvalid : String.fromUTF8? text.toUTF8 = some text := dif_pos text.isValidUTF8
  rw [readText_of_reads h.1 h.2, hvalid]

theorem Unreadable.readText_eq {e : FileError} (h : t.Unreadable path e) :
    t.readText path = .error e := by
  cases h with
  | refused hpath => rw [readText, hpath]
  | empty => rfl
  | unread hpath hne hread =>
    have hempty : path.isEmpty = false := by simpa using hne
    rw [readText, hpath]
    simp only [hempty, readBytes_eq_iff.2 hread]
    rfl
  | @binary _ bytes hpath hread hbytes =>
    have hinvalid : String.fromUTF8? bytes = none := dif_neg hbytes
    rw [readText_of_reads hpath hread, hinvalid]

/-- A path has a text, or there is a reason why it has none. -/
theorem hasText_or_unreadable (t : FileTree) (path : String) :
    (∃ text, t.HasText path text) ∨ ∃ e, t.Unreadable path e := by
  cases hpath : refusal? path with
  | some e => exact .inr ⟨e, .refused hpath⟩
  | none =>
    obtain ⟨r, hread⟩ := t.exists_reads (t.partsOf path)
    cases r with
    | error e =>
      by_cases hne : path = ""
      · subst hne
        exact .inr ⟨_, .empty⟩
      · exact .inr ⟨e, .unread hpath hne hread⟩
    | ok bytes =>
      by_cases hbytes : bytes.IsValidUTF8
      · exact .inl ⟨⟨bytes, hbytes⟩, hpath, hread⟩
      · exact .inr ⟨_, .binary hpath hread hbytes⟩

/-- What is read as the text at a path is the text of its file. -/
theorem readText_eq_ok_iff : t.readText path = .ok text ↔ t.HasText path text := by
  refine ⟨fun h => ?_, HasText.readText_eq⟩
  obtain ⟨text', htext⟩ | ⟨e, hnone⟩ := t.hasText_or_unreadable path
  · cases h.symm.trans htext.readText_eq
    exact htext
  · cases h.symm.trans hnone.readText_eq

/-- What is told instead of a text is why there is none. -/
theorem readText_eq_error_iff {e : FileError} :
    t.readText path = .error e ↔ t.Unreadable path e := by
  refine ⟨fun h => ?_, Unreadable.readText_eq⟩
  obtain ⟨text, htext⟩ | ⟨e', hnone⟩ := t.hasText_or_unreadable path
  · cases h.symm.trans htext.readText_eq
  · cases h.symm.trans hnone.readText_eq
    exact hnone

/-- A path that does not start at the root is read from the working directory. -/
example : readText ⟨[("etc", .directory [("motto", .file "Give".toUTF8)])], ["etc"]⟩
    "../etc/./motto" = .ok "Give" := by
  rfl

end FileTree

/-! ## Settings -/

namespace Settings

/-- Only a file that cannot be read is said to be unreadable. -/
theorem ofText_ne_unreadable (text place reason : String) :
    ofText text ≠ .error (.unreadable place reason) := by
  unfold ofText checked
  split
  · nofun
  · split <;> nofun

/-- **Settings are read from the text of their file.** If the file that a path names holds a text, the
settings at the path are those of the text, or what is wrong with it is told. Settings that are read
are those of such a text, and have no defect. Otherwise the path is told with the one reason why there
is nothing to be read: the path as a whole is refused, it is empty, an obstacle stands on its way, it
leads to a directory, or the bytes of its file are no text. -/
theorem settings_come_from_file (t : FileTree) (path : String) :
    (∀ text, t.HasText path text → ofPath t path = ofText text) ∧
      (∀ s, ofPath t path = .ok s ↔ ∃ text, t.HasText path text ∧ ofText text = .ok s) ∧
      (∀ s, ofPath t path = .ok s → s.defect? = none) ∧
      ∀ place reason, ofPath t path = .error (.unreadable place reason) ↔
        place = path ∧ ∃ e, t.Unreadable path e ∧ reason = e.message := by
  have htext : ∀ text, t.HasText path text → ofPath t path = ofText text := by
    intro text h
    rw [ofPath, FileTree.readText_eq_ok_iff.2 h]
    rfl
  have hnone : ∀ e, t.Unreadable path e → ofPath t path = .error (.unreadable path e.message) := by
    intro e h
    rw [ofPath, FileTree.readText_eq_error_iff.2 h]
    rfl
  have hok : ∀ s, ofPath t path = .ok s ↔ ∃ text, t.HasText path text ∧ ofText text = .ok s := by
    intro s
    constructor
    · intro h
      obtain ⟨text, hfile⟩ | ⟨e, hfault⟩ := t.hasText_or_unreadable path
      · exact ⟨text, hfile, (htext text hfile).symm.trans h⟩
      · cases h.symm.trans (hnone e hfault)
    · rintro ⟨text, hfile, h⟩
      exact (htext text hfile).trans h
  refine ⟨htext, hok, fun s h => ?_, fun place reason => ⟨fun h => ?_, ?_⟩⟩
  · obtain ⟨text, -, h⟩ := (hok s).1 h
    exact (ofText_eq_ok_iff.1 h).1
  · obtain ⟨text, hfile⟩ | ⟨e, hfault⟩ := t.hasText_or_unreadable path
    · exact absurd ((htext text hfile).symm.trans h) (ofText_ne_unreadable text place reason)
    · cases h.symm.trans (hnone e hfault)
      exact ⟨rfl, e, hfault, rfl⟩
  · rintro ⟨rfl, e, hfault, rfl⟩
    exact hnone e hfault

end Settings

end GiftExchange
