import GiftExchange.Proofs.Files.Walk

set_option autoImplicit false

/-! # Making directories

One directory is made in a directory that is there, under a name that is free: it is the only thing
that is new in the tree. A directory with all that lead to it is made from the first one that is
missing on. Nothing that stood in the tree is lost or changed on the way (`Grows`), and whatever is
new is a directory that the path leads through. It works out unless a file stands on the way or a
name is too long. -/

namespace GiftExchange

namespace FileTree

/-! ## What an edit leaves -/

theorem lookup_setEntry (d : Directory) (name : String) (e : Entry) (other : String) :
    (setEntry d name e).lookup other = if other = name then some e else d.lookup other := by
  have hfilter : other ≠ name → (d.filter (·.1 != name)).lookup other = d.lookup other := by
    intro hne
    induction d with
    | nil => rfl
    | cons entry d ih =>
      by_cases hentry : entry.1 = name
      · rw [List.filter_cons_of_neg (by simp [hentry]), ih, List.lookup_cons, hentry,
          beq_false_of_ne hne]
      · rw [List.filter_cons_of_pos (by simp [hentry]), List.lookup_cons, List.lookup_cons, ih]
  rw [setEntry, List.lookup_cons]
  by_cases hname : other = name
  · rw [if_pos hname, hname, beq_self_eq_true]
  · rw [if_neg hname, beq_false_of_ne hname, hfilter hname]

theorem find?_setEntry (d : Directory) (name : String) (e : Entry) (other : String)
    (rest : List String) :
    (Entry.directory (setEntry d name e)).find? (other :: rest) =
      if other = name then e.find? rest else (Entry.directory d).find? (other :: rest) := by
  rw [Entry.find?, lookup_setEntry]
  split_ifs <;> rfl

variable {t t' : FileTree} {names parts : List String} {name : String} {s : Spot}

/-- Another directory in the place of one: what it holds stands behind its names, and everything
else is as before. -/
theorem Spot.At.rootAbove (h : At t names s) (d : Directory) :
    (∀ rest, (Entry.directory (FileTree.rootAbove d s.above)).find? (names ++ rest) =
        (Entry.directory d).find? rest) ∧
      ∀ other, ¬names <+: other →
        ((Entry.directory (FileTree.rootAbove d s.above)).find? other).map Entry.kind =
          t.kind? other := by
  induction h generalizing d with
  | root => exact ⟨fun rest => rfl, fun other hother => absurd (List.nil_prefix) hother⟩
  | @down names s name entries h found ih =>
    obtain ⟨hbelow, hbeside⟩ := ih (setEntry s.entries name (.directory d))
    refine ⟨fun rest => ?_, fun other hother => ?_⟩
    · rw [List.append_assoc]
      refine (hbelow _).trans ?_
      rw [List.singleton_append, find?_setEntry, if_pos rfl]
    · by_cases hprefix : names <+: other
      · obtain ⟨tail, rfl⟩ := hprefix
        rw [h.kind?_append]
        refine (congrArg _ (hbelow tail)).trans ?_
        cases tail with
        | nil => rfl
        | cons first rest =>
          have hfirst : first ≠ name := by
            rintro rfl
            exact hother ⟨rest, by simp⟩
          rw [find?_setEntry, if_neg hfirst]
      · exact hbeside other hprefix

/-- The tree with an empty directory more. -/
theorem Spot.At.kind?_make (h : At t names s) (hfree : s.entries.lookup name = none)
    (other : List String) :
    kind? { t with root := FileTree.rootAbove (setEntry s.entries name (.directory [])) s.above }
        other =
      if other = names ++ [name] then some .directory else t.kind? other := by
  obtain ⟨hbelow, hbeside⟩ := h.rootAbove (setEntry s.entries name (.directory []))
  by_cases hprefix : names <+: other
  · obtain ⟨tail, rfl⟩ := hprefix
    rw [h.kind?_append, kind?, hbelow tail]
    simp only [List.append_cancel_left_eq]
    cases tail with
    | nil => rfl
    | cons first rest =>
      rw [find?_setEntry]
      simp only [List.cons.injEq]
      by_cases hfirst : first = name
      · rw [if_pos hfirst, hfirst, Entry.find?, hfree]
        cases rest <;> simp [Entry.find?, Entry.kind]
      · rw [if_neg hfirst, if_neg fun heq => hfirst heq.1]
  · have hother : other ≠ names ++ [name] := by
      rintro rfl
      exact hprefix (List.prefix_append names [name])
    rw [if_neg hother]
    exact hbeside other hprefix

/-! ## Growing -/

/-- Nothing that stands in the tree is lost or changed, and whatever is new is a directory. -/
structure Grows (t t' : FileTree) : Prop where
  kept : ∀ {names : List String} {kind : Kind}, t.kind? names = some kind →
    t'.kind? names = some kind
  fresh : ∀ {names : List String} {kind : Kind}, t.kind? names = none → t'.kind? names = some kind →
    kind = .directory
  working : t'.working = t.working

theorem Grows.refl (t : FileTree) : Grows t t where
  kept h := h
  fresh hnone h := by
    rw [hnone] at h
    cases h
  working := rfl

theorem Grows.trans {t'' : FileTree} (h : Grows t t') (h' : Grows t' t'') : Grows t t'' where
  kept hkind := h'.kept (h.kept hkind)
  fresh {names kind} hnone hkind := by
    cases hmid : t'.kind? names with
    | none => exact h'.fresh hmid hkind
    | some found =>
      cases (h'.kept hmid).symm.trans hkind
      exact h.fresh hnone hmid
  working := h'.working.trans h.working

/-- No file is new. -/
theorem Grows.file_iff (h : Grows t t') {bytes : ByteArray} :
    t'.kind? names = some (.file bytes) ↔ t.kind? names = some (.file bytes) := by
  refine ⟨fun hfile => ?_, h.kept⟩
  cases hkind : t.kind? names with
  | none => cases h.fresh hkind hfile
  | some kind => exact (h.kept hkind).symm.trans hfile

theorem Grows.leads (h : Grows t t') (hleads : t.Leads parts names) : t'.Leads parts names :=
  hleads.mono fun _ => h.kept

/-- Names that parts lead through, or lead to. -/
def Through (parts names : List String) : Prop :=
  ∃ front, front <+: parts.filter Path.isStep ∧ Way (fun _ => True) [] front names

/-- A tree that grows by directories that parts lead through. -/
structure GrowsAlong (parts : List String) (t t' : FileTree) : Prop extends Grows t t' where
  through : ∀ {names : List String}, t.kind? names = none → t'.kind? names ≠ none →
    Through parts names

theorem GrowsAlong.refl (parts : List String) (t : FileTree) : GrowsAlong parts t t where
  toGrows := .refl t
  through hnone hsome := absurd hnone hsome

theorem GrowsAlong.trans {t'' : FileTree} (h : GrowsAlong parts t t')
    (h' : GrowsAlong parts t' t'') : GrowsAlong parts t t'' where
  toGrows := h.toGrows.trans h'.toGrows
  through {names} hnone hsome := by
    by_cases hmid : t'.kind? names = none
    · exact h'.through hmid hsome
    · exact h.through hnone hmid

theorem GrowsAlong.of_parent (h : GrowsAlong (Path.parent parts) t t') : GrowsAlong parts t t' where
  toGrows := h.toGrows
  through hnone hsome := by
    obtain ⟨front, hfront, hway⟩ := h.through hnone hsome
    rw [Path.filter_parent] at hfront
    exact ⟨front, hfront.trans (List.dropLast_prefix _), hway⟩

/-! ## One directory -/

theorem way_dropEmptyEnd_iff {ok : List String → Prop} {target : List String} :
    Way ok names (Path.dropEmptyEnd parts) target ↔ Way ok names parts target := by
  rw [← way_filter_iff, Path.filter_dropEmptyEnd, way_filter_iff]

theorem isDirectory_dropEmptyEnd :
    t.isDirectory (Path.dropEmptyEnd parts) = t.isDirectory parts := by
  rw [Bool.eq_iff_iff, isDirectory_iff, isDirectory_iff]
  exact exists_congr fun _ => way_dropEmptyEnd_iff

/-- What making a directory at the end of parts comes to: it is there already, it cannot be made
because of an obstacle or a file in its place, or it is all that is new. -/
inductive MakesOne (t : FileTree) (parts : List String) : Except FileError FileTree → Prop where
  | there (h : t.isDirectory parts = true) : MakesOne t parts (.error .exists)
  | blocked {front : List String} {name : String} {e : FileError}
      (hparts : Path.dropEmptyEnd parts = front ++ [name]) (h : t.Blocked [] front e) :
      MakesOne t parts (.error e)
  | long {front names : List String} {name : String}
      (hparts : Path.dropEmptyEnd parts = front ++ [name]) (hfront : t.Leads front names)
      (h : Path.isLongPart name = true) : MakesOne t parts (.error .nameTooLong)
  | file {front names : List String} {name : String} {bytes : ByteArray}
      (hparts : Path.dropEmptyEnd parts = front ++ [name]) (hfront : t.Leads front names)
      (hname : Path.isName name = true) (h : t.kind? (names ++ [name]) = some (.file bytes)) :
      MakesOne t parts (.error .exists)
  | made {front names : List String} {name : String} {t' : FileTree}
      (hparts : Path.dropEmptyEnd parts = front ++ [name]) (hfront : t.Leads front names)
      (hname : Path.isName name = true) (hfree : t.kind? (names ++ [name]) = none)
      (hworking : t'.working = t.working)
      (hkind : ∀ other, t'.kind? other =
        if other = names ++ [name] then some .directory else t.kind? other) :
      MakesOne t parts (.ok t')

theorem makeDirectory_of_isDirectory (h : t.isDirectory parts = true) :
    t.makeDirectory parts = .error .exists := by
  rw [← isDirectory_dropEmptyEnd] at h
  obtain ⟨target, hleads⟩ := isDirectory_iff.1 h
  obtain ⟨mid, hfront⟩ := Way.dropLast hleads
  obtain ⟨s, -, henter⟩ := Leads.enter hfront
  rw [makeDirectory, henter, h]
  rfl

theorem makesOne (t : FileTree) (parts : List String) :
    t.MakesOne parts (t.makeDirectory parts) := by
  by_cases hthere : t.isDirectory parts = true
  · rw [makeDirectory_of_isDirectory hthere]
    exact .there hthere
  have hnot : t.isDirectory (Path.dropEmptyEnd parts) = false := by
    rw [isDirectory_dropEmptyEnd]
    exact eq_false_of_ne_true hthere
  rcases List.eq_nil_or_concat' (Path.dropEmptyEnd parts) with hparts | ⟨front, name, hparts⟩
  · rw [hparts] at hnot
    cases hnot
  rw [makeDirectory, hnot]
  simp only [hparts, List.dropLast_concat]
  cases henter : t.enter front with
  | error e => exact .blocked hparts (enter_eq_error_iff.1 henter)
  | ok s =>
    obtain ⟨names, hfront, hs⟩ := leads_of_enter henter
    obtain ⟨target, _, hlast, -, -⟩ | ⟨e, hobstacle, -⟩ := hs.walk_cons name []
    · have hleads : t.isDirectory (front ++ [name]) = true :=
        isDirectory_iff.2 ⟨target, hfront.append hlast⟩
      rw [hparts, hleads] at hnot
      cases hnot
    · cases hobstacle with
      | long hlong =>
        have hname : Path.isName name = false := by simp [Path.isName, hlong]
        simp only [lastFound?_of_not_name hname, List.getLast?_concat, hname]
        have habsence : absence (front ++ [name]) = .nameTooLong := by simp [absence, hlong]
        simp only [habsence]
        exact .long hparts hfront hlong
      | @file bytes hname hfile =>
        have hsome : (lastFound? s (front ++ [name])).isSome = true := by
          rw [lastFound?_concat hname, ← Option.isSome_map, ← hs.kind?_concat, hfile]
          rfl
        simp only [hsome]
        exact .file hparts hfront hname hfile
      | nothing hname hnone =>
        have hfree : s.entries.lookup name = none := by
          rwa [hs.kind?_concat, Option.map_eq_none_iff] at hnone
        simp only [lastFound?_concat hname, hfree, List.getLast?_concat, hname]
        exact .made hparts hfront hname hnone rfl (hs.kind?_make hfree)

/-- The directory that was made is there, and is all that is new. -/
theorem MakesOne.growsAlong (h : t.MakesOne parts (.ok t')) :
    GrowsAlong parts t t' ∧ t'.isDirectory parts = true := by
  cases h with
  | @made front names name _ hparts hfront hname hfree hworking hkind =>
    have hgrows : Grows t t' := by
      refine ⟨fun {other kind} hsome => ?_, fun {other kind} hnone hsome => ?_, hworking⟩
      · have hother : other ≠ names ++ [name] := by
          rintro rfl
          cases hfree.symm.trans hsome
        rwa [hkind, if_neg hother]
      · rw [hkind] at hsome
        split_ifs at hsome
        · exact (Option.some.inj hsome).symm
        · cases hnone.symm.trans hsome
    have hleads : t'.Leads parts (names ++ [name]) := by
      have hthere : t'.IsDirectory (names ++ [name]) := (hkind _).trans (if_pos rfl)
      rw [Leads, ← way_dropEmptyEnd_iff, hparts]
      exact (hgrows.leads hfront).append (.down hname hthere (.here _))
    refine ⟨⟨hgrows, fun {other} hnone hsome => ?_⟩, isDirectory_iff.2 ⟨_, hleads⟩⟩
    have hother : other = names ++ [name] := by
      by_contra hne
      rw [hkind, if_neg hne] at hsome
      exact hsome hnone
    rw [hother]
    exact ⟨_, List.prefix_rfl, way_filter_iff.2 (hleads.mono fun _ _ => trivial)⟩

theorem MakesOne.not_isDirectory (h : t.MakesOne parts (.error .notFound)) :
    t.isDirectory parts = false := by
  cases h with
  | blocked hparts h =>
    rw [← isDirectory_dropEmptyEnd, hparts, ← Bool.not_eq_true, isDirectory_iff]
    rintro ⟨target, hway⟩
    obtain ⟨mid, hfront, -⟩ := Way.exists_of_append hway
    exact absurd (isDirectory_iff.2 ⟨mid, hfront⟩) (by rw [h.not_isDirectory]; decide)

/-! ## A directory and all before it -/

/-- Parts on which no file stands in the way, and no name is too long. -/
def Clear (t : FileTree) (parts : List String) : Prop :=
  ∃ target, Way (fun names => ∀ bytes, t.kind? names ≠ some (.file bytes)) [] parts target

theorem Grows.clear_iff (h : Grows t t') : t'.Clear parts ↔ t.Clear parts := by
  simp only [Clear, ne_eq, h.file_iff]

/-- Where a directory is, no file stands in the way. -/
theorem clear_of_isDirectory (h : t.isDirectory parts = true) : t.Clear parts := by
  obtain ⟨target, hleads⟩ := isDirectory_iff.1 h
  refine ⟨target, hleads.mono fun names hdirectory bytes hfile => ?_⟩
  cases hdirectory.symm.trans hfile

/-- On a way that is clear nothing but a missing directory is an obstacle. -/
theorem Obstacle.of_clear {e : FileError} {rest target : List String} (h : t.Obstacle names name e)
    (hway : Way (fun names => ∀ bytes, t.kind? names ≠ some (.file bytes)) names (name :: rest)
      target) : e = .notFound := by
  cases h with
  | long hlong => exact absurd hway (not_way_of_isLongPart hlong)
  | file hname hfile => exact absurd hfile (((way_down_iff hname).1 hway).1 _)
  | nothing => rfl

/-- With nothing in the way, a directory is there or is made, unless one before it is missing. -/
theorem MakesOne.of_clear {e : FileError} (h : t.MakesOne parts (.error e))
    (hclear : t.Clear parts) :
    t.isDirectory parts = true ∨
      e = .notFound ∧ ∃ front name, Path.dropEmptyEnd parts = front ++ [name] ∧
        t.isDirectory front = false := by
  obtain ⟨target, hway⟩ := hclear
  rw [← way_dropEmptyEnd_iff] at hway
  cases h with
  | there h => exact .inl h
  | @blocked front name _ hparts h =>
    refine .inr ⟨?_, front, name, hparts, h.not_isDirectory⟩
    obtain ⟨first, part, rest, mid, rfl, hfirst, hobstacle⟩ := h
    rw [hparts, List.append_assoc] at hway
    exact hobstacle.of_clear (hfirst.rest_of_append hway)
  | long hparts hfront hlong =>
    rw [hparts] at hway
    cases (Obstacle.long (t := t) hlong).of_clear (Way.rest_of_append hfront hway)
  | file hparts hfront hname hfile =>
    rw [hparts] at hway
    cases (Obstacle.file hname hfile).of_clear (Way.rest_of_append hfront hway)

/-- One directory is made, or is there, or cannot be made. -/
theorem ensureDirectory_cases (t : FileTree) (parts : List String) :
    (∃ t', t.MakesOne parts (.ok t') ∧ t.ensureDirectory parts = (.ok (), t')) ∨
      (t.isDirectory parts = true ∧ t.ensureDirectory parts = (.ok (), t)) ∨
      ∃ e, t.isDirectory parts = false ∧ t.MakesOne parts (.error e) ∧
        t.ensureDirectory parts = (.error e, t) := by
  have hone := t.makesOne parts
  unfold ensureDirectory
  cases hmake : t.makeDirectory parts with
  | ok t' =>
    rw [hmake] at hone
    exact .inl ⟨t', hone, rfl⟩
  | error e =>
    rw [hmake] at hone
    cases hthere : t.isDirectory parts with
    | true => exact .inr (.inl ⟨rfl, rfl⟩)
    | false => exact .inr (.inr ⟨e, rfl, hone, rfl⟩)

theorem ensureDirectory_spec (t : FileTree) (parts : List String) :
    GrowsAlong parts t (t.ensureDirectory parts).2 ∧
      ((t.ensureDirectory parts).1 = .ok () ↔
        (t.ensureDirectory parts).2.isDirectory parts = true) := by
  obtain ⟨t', hone, heq⟩ | ⟨hthere, heq⟩ | ⟨e, hmissing, -, heq⟩ := t.ensureDirectory_cases parts
  · rw [heq]
    exact ⟨hone.growsAlong.1, iff_of_true rfl hone.growsAlong.2⟩
  · rw [heq]
    exact ⟨.refl parts t, iff_of_true rfl hthere⟩
  · rw [heq]
    exact ⟨.refl parts t, iff_of_false nofun (by simp [hmissing])⟩

/-- Making all directories is making the last one, unless one before it is missing: then those before
are made first. -/
theorem makeAll_cases (depth : Nat) (t : FileTree) (parts : List String) :
    ((t.ensureDirectory parts).1 ≠ .error .notFound ∧
        makeAll (depth + 1) t parts = t.ensureDirectory parts) ∨
      (t.isDirectory parts = false ∧
        ((∃ e mid, makeAll depth t (Path.parent parts) = (.error e, mid) ∧
            makeAll (depth + 1) t parts = (.error e, mid)) ∨
          ∃ mid, makeAll depth t (Path.parent parts) = (.ok (), mid) ∧
            makeAll (depth + 1) t parts = mid.ensureDirectory parts)) := by
  obtain ⟨t', -, heq⟩ | ⟨-, heq⟩ | ⟨e, hmissing, -, heq⟩ := t.ensureDirectory_cases parts
  · exact .inl ⟨by rw [heq]; nofun, by rw [makeAll, heq]⟩
  · exact .inl ⟨by rw [heq]; nofun, by rw [makeAll, heq]⟩
  · by_cases he : e = .notFound
    · subst he
      refine .inr ⟨hmissing, ?_⟩
      rcases hmade : makeAll depth t (Path.parent parts) with ⟨e | ⟨⟩, mid⟩
      · exact .inl ⟨e, mid, rfl, by simp only [makeAll, heq, hmade]⟩
      · exact .inr ⟨mid, rfl, by simp only [makeAll, heq, hmade]⟩
    · refine .inl ⟨by rw [heq]; simpa using he, ?_⟩
      rw [makeAll, heq]
      cases e <;> first | rfl | exact absurd rfl he

/-- Parts that lead somewhere lead somewhere without the last step. -/
theorem isDirectory_parent (h : t.isDirectory parts = true) :
    t.isDirectory (Path.parent parts) = true := by
  obtain ⟨target, hleads⟩ := isDirectory_iff.1 h
  obtain ⟨mid, hparent⟩ := (way_filter_iff.2 hleads).dropLast
  exact isDirectory_iff.2 ⟨mid, hparent⟩

theorem Clear.parent (h : t.Clear parts) : t.Clear (Path.parent parts) := by
  obtain ⟨target, hway⟩ := h
  exact (way_filter_iff.2 hway).dropLast

/-- There are fewer steps before a directory that is missing. -/
theorem length_parent_lt (h : t.isDirectory parts = false) :
    ((Path.parent parts).filter Path.isStep).length < (parts.filter Path.isStep).length := by
  have hsteps : parts.filter Path.isStep ≠ [] := by
    intro hnil
    have hleads : t.Leads parts [] := way_filter_iff.1 (by rw [hnil]; exact .here [])
    rw [isDirectory_iff.2 ⟨[], hleads⟩] at h
    cases h
  rw [Path.filter_parent, Path.parent, List.length_dropLast]
  exact Nat.sub_lt (List.length_pos_of_ne_nil hsteps) Nat.one_pos

/-- Making a directory with all before it only adds directories on the way, and works out exactly if
the directory is there in the end. -/
theorem makeAll_spec {depth : Nat} (hdepth : (parts.filter Path.isStep).length < depth) :
    GrowsAlong parts t (makeAll depth t parts).2 ∧
      ((makeAll depth t parts).1 = .ok () ↔
        (makeAll depth t parts).2.isDirectory parts = true) := by
  induction depth generalizing t parts with
  | zero => exact absurd hdepth (Nat.not_lt_zero _)
  | succ depth ih =>
    obtain ⟨-, heq⟩ | ⟨hmissing, hbefore⟩ := makeAll_cases depth t parts
    · rw [heq]
      exact t.ensureDirectory_spec parts
    have hfewer : ((Path.parent parts).filter Path.isStep).length < depth :=
      Nat.lt_of_lt_of_le (length_parent_lt hmissing) (Nat.lt_succ_iff.1 hdepth)
    obtain ⟨hgrows, hparent⟩ := ih hfewer (t := t)
    obtain ⟨e, mid, hmade, heq⟩ | ⟨mid, hmade, heq⟩ := hbefore
    · rw [hmade] at hgrows hparent
      rw [heq]
      refine ⟨hgrows.of_parent, iff_of_false nofun fun hthere => ?_⟩
      cases hparent.2 (isDirectory_parent hthere)
    · rw [hmade] at hgrows
      rw [heq]
      obtain ⟨hgrows', hthere⟩ := mid.ensureDirectory_spec parts
      exact ⟨hgrows.of_parent.trans hgrows', hthere⟩

/-- With nothing in the way one directory is made, or one before it is missing. -/
theorem ensureDirectory_of_clear (hclear : t.Clear parts) :
    (t.ensureDirectory parts).1 = .ok () ∨
      ((t.ensureDirectory parts).1 = .error .notFound ∧
        ∃ front name, Path.dropEmptyEnd parts = front ++ [name] ∧ t.isDirectory front = false) := by
  obtain ⟨t', -, heq⟩ | ⟨-, heq⟩ | ⟨e, hmissing, hone, heq⟩ := t.ensureDirectory_cases parts
  · exact .inl (by rw [heq])
  · exact .inl (by rw [heq])
  · obtain hthere | ⟨rfl, hfront⟩ := hone.of_clear hclear
    · rw [hmissing] at hthere
      cases hthere
    · exact .inr ⟨by rw [heq], hfront⟩

/-- With nothing in the way a directory is made with all before it, unless the parts end with a dot
behind a directory that is missing. -/
theorem makeAll_of_clear {depth : Nat} (hdepth : (parts.filter Path.isStep).length < depth)
    (hclear : t.Clear parts) (hdot : (Path.dropEmptyEnd parts).getLast? ≠ some ".") :
    (makeAll depth t parts).1 = .ok () := by
  induction depth generalizing t parts with
  | zero => exact absurd hdepth (Nat.not_lt_zero _)
  | succ depth ih =>
    obtain ⟨hfound, heq⟩ | ⟨hmissing, hbefore⟩ := makeAll_cases depth t parts
    · rw [heq]
      obtain hok | ⟨hnone, -⟩ := ensureDirectory_of_clear hclear
      · exact hok
      · exact absurd hnone hfound
    have hfewer : ((Path.parent parts).filter Path.isStep).length < depth :=
      Nat.lt_of_lt_of_le (length_parent_lt hmissing) (Nat.lt_succ_iff.1 hdepth)
    have hparent := ih hfewer hclear.parent (Path.dropEmptyEnd_parent_ne_dot parts)
    obtain ⟨hgrows, hthere⟩ := makeAll_spec hfewer (t := t)
    obtain ⟨e, mid, hmade, -⟩ | ⟨mid, hmade, heq⟩ := hbefore
    · rw [hmade] at hparent
      cases hparent
    · rw [hmade] at hgrows hthere
      rw [heq]
      obtain hok | ⟨-, front, name, hparts, hfront⟩ :=
        ensureDirectory_of_clear (hgrows.clear_iff.2 hclear)
      · exact hok
      · -- the parts in front of the last name are the parent, which is there by now
        have hstep : Path.isStep name = true := by
          have hname : name ≠ "." := by
            rintro rfl
            exact hdot (by rw [hparts, List.getLast?_concat])
          simp [Path.isStep, Path.ne_empty_of_dropEmptyEnd hparts, hname]
        have hfilter : Path.parent parts = front.filter Path.isStep := by
          rw [Path.parent, ← Path.filter_dropEmptyEnd, hparts, List.filter_append,
            List.filter_cons_of_pos hstep, List.filter_nil, List.dropLast_concat]
        obtain ⟨names, hleads⟩ := isDirectory_iff.1 (hthere.1 rfl)
        rw [hfilter] at hleads
        rw [isDirectory_iff.2 ⟨names, way_filter_iff.1 hleads⟩] at hfront
        cases hfront

theorem length_filter_lt (parts : List String) :
    (parts.filter Path.isStep).length < parts.length + 1 :=
  Nat.lt_succ_of_le (List.length_filter_le _ _)

variable {path : String}

theorem makeDirectories_of_refusal {e : FileError} (h : refusal? path = some e) :
    t.makeDirectories path = (.error e, t) := by
  rw [makeDirectories, h]

theorem makeDirectories_eq (h : refusal? path = none) :
    t.makeDirectories path = makeAll ((t.partsOf path).length + 1) t (t.partsOf path) := by
  rw [makeDirectories, h]

/-- **A directory is made with all that lead to it, and nothing else changes.** Whatever comes of it,
all that stood in the tree stands there as before, and what is new are directories that the path leads
through. It works out exactly if the path is not refused as a whole and is a directory in the end.
This is so exactly if no file stands on the way and no name is too long, unless the path ends with a
dot. A directory that is there is left alone, and a path that is refused changes nothing. -/
theorem directories_are_made (t : FileTree) (path : String) :
    GrowsAlong (t.partsOf path) t (t.makeDirectories path).2 ∧
      ((t.makeDirectories path).1 = .ok () ↔
        refusal? path = none ∧ (t.makeDirectories path).2.isDirectory (t.partsOf path) = true) ∧
      ((Path.dropEmptyEnd (t.partsOf path)).getLast? ≠ some "." →
        ((t.makeDirectories path).1 = .ok () ↔
          refusal? path = none ∧ t.Clear (t.partsOf path))) ∧
      (refusal? path = none → t.isDirectory (t.partsOf path) = true →
        t.makeDirectories path = (.ok (), t)) ∧
      ∀ e, refusal? path = some e → t.makeDirectories path = (.error e, t) := by
  cases hpath : refusal? path with
  | some e =>
    rw [makeDirectories_of_refusal hpath]
    refine ⟨.refl _ t, iff_of_false nofun nofun, fun _ => iff_of_false nofun nofun, nofun, ?_⟩
    rintro e' ⟨⟩
    rfl
  | none =>
    rw [makeDirectories_eq hpath]
    obtain ⟨hgrows, hthere⟩ := makeAll_spec (length_filter_lt (t.partsOf path)) (t := t)
    refine ⟨hgrows, hthere.trans (and_iff_right rfl).symm, fun hdot => ?_, fun _ hbefore => ?_,
      nofun⟩
    · rw [and_iff_right rfl]
      refine ⟨fun hmade => ?_, fun hclear => makeAll_of_clear (length_filter_lt _) hclear hdot⟩
      exact hgrows.clear_iff.1 (clear_of_isDirectory (hthere.1 hmade))
    · rw [makeAll, ensureDirectory, makeDirectory_of_isDirectory hbefore, hbefore]
      rfl

/-- A directory that is missing is not made under the name of a dot. -/
example : makeDirectories ⟨[], []⟩ "/new/." = (.error .notFound, ⟨[], []⟩) := by
  rfl

end FileTree

end GiftExchange
