import GiftExchange.Document.Settings
import GiftExchange.Proofs.Json.Decoder

set_option autoImplicit false

/-! # Which documents hold settings

A JSON object holds settings exactly if it writes their six fields, once each and in whatever order
(`Settings.decode_eq_ok_iff`), and an object with any other keys holds none. This is said of the tree
of a text. Together with how trees are written and read it says which texts are read as settings: the
settings are checked, and nothing is read that the check refuses. -/

namespace GiftExchange

open Decoder Decoder.Shape

theorem MailFormat.decode_eq_ok_iff {t : Tree} {f : MailFormat} :
    decode t = .ok f ↔
      t = .string (some f.name) ∨ t = .object [(.string (some f.name), .null)] := by
  have hlookup : ∀ name, (all.map fun f => (f.name, f)).lookup name = some f ↔ name = f.name := by
    intro name
    have hnames : (all.map fun f => (f.name, f)) =
        [("plaintext", .plaintext), ("multipart", .multipart)] := rfl
    rw [hnames, List.lookup_cons, List.lookup_cons, List.lookup_nil]
    by_cases hplain : name = "plaintext"
    · subst hplain
      cases f <;> decide
    · by_cases hmulti : name = "multipart"
      · subst hmulti
        cases f <;> decide
      · rw [beq_false_of_ne hplain, beq_false_of_ne hmulti]
        cases f <;> simp [hplain, hmulti, MailFormat.name]
  rw [decode, variant_eq_ok_iff]
  simp only [hlookup, exists_eq_left]

namespace Settings

/-- The fields of settings as trees, in the order of their declaration. The format is its name, or an
object with nothing but null under the name; the number of attempts is an integer. -/
inductive FieldsWrite (s : Settings) : List (String × Tree) → Prop where
  | fields {format : Tree} {attempts : Numeral}
      (hformat : format = .string (some s.defaultFormat.name) ∨
        format = .object [(.string (some s.defaultFormat.name), .null)])
      (hattempts : attempts.integer? = some (s.maxAttempts.toNat : Int)) :
      FieldsWrite s [("sender_name", .string (some s.senderName)),
        ("sender_address", .string (some s.senderAddress)),
        ("template_group", .string (some s.templateGroup)),
        ("default_email_format", format),
        ("default_template_name", .string (some s.defaultTemplateName)),
        ("max_attempts", .number attempts)]

theorem needs_shape : shape.Needs :=
  ((((((needs_pure mk).and (needs_required _ _)).and (needs_required _ _)).and
    (needs_required _ _)).and (needs_required _ _)).and (needs_required _ _)).and
    (needs_required _ _)

theorem reads_iff {s : Settings} {ms : List (String × Tree)} :
    shape.Reads ms s ↔ s.FieldsWrite ms := by
  constructor
  · intro h
    have hnodup : (ms.map Prod.fst).Nodup := by
      rw [← h.names]
      decide
    have hbuild := h.built ms fun m hm => lookup_of_nodup hnodup hm
    simp only [shape, build_and_eq_ok_iff, build_required_eq_ok_iff, string_eq_ok_iff,
      word_eq_ok_iff, MailFormat.decode_eq_ok_iff] at hbuild
    obtain ⟨_, maxAttempts, ⟨_, templateName, ⟨_, defaultFormat, ⟨_, group, ⟨_, address, ⟨_, name, ⟨⟩,
      ⟨_, hname, rfl⟩, rfl⟩, ⟨_, haddress, rfl⟩, rfl⟩, ⟨_, hgroup, rfl⟩, rfl⟩,
      ⟨format, hformat, hwritten⟩, rfl⟩, ⟨_, htemplate, rfl⟩, rfl⟩,
      ⟨_, hmax, attempts, rfl, hattempts⟩, rfl⟩ := hbuild
    -- no name comes twice, so what is found under the six names is all there is
    have hms : ms = [("sender_name", .string (some name)),
        ("sender_address", .string (some address)), ("template_group", .string (some group)),
        ("default_email_format", format), ("default_template_name", .string (some templateName)),
        ("max_attempts", .number attempts)] :=
      eq_of_lookup hnodup h.names (by simp [hname, haddress, hgroup, hformat, htemplate, hmax])
    rw [hms]
    exact .fields hwritten hattempts
  · rintro ⟨hformat, hattempts⟩
    exact ((((((reads_pure mk).and
      (reads_field (string_eq_ok_iff.2 rfl))).and
      (reads_field (string_eq_ok_iff.2 rfl))).and
      (reads_field (string_eq_ok_iff.2 rfl))).and
      (reads_field (MailFormat.decode_eq_ok_iff.2 hformat))).and
      (reads_field (string_eq_ok_iff.2 rfl))).and
      (reads_field (word_eq_ok_iff.2 ⟨_, rfl, hattempts⟩))

/-- The members of an object are the fields of settings, in whatever order. -/
def MembersWrite (s : Settings) (members : List (Tree × Tree)) : Prop :=
  ∃ written fields, members = membersOf written ∧ written.Perm fields ∧ s.FieldsWrite fields

theorem decode_eq_ok_iff {s : Settings} {members : List (Tree × Tree)} :
    decode (.object members) = .ok s ↔ s.MembersWrite members := by
  have hnodup : (shape.fields.map Field.name).Nodup := by decide
  simp only [decode, needs_shape.decode_eq_ok_iff hnodup, reads_iff, MembersWrite]

/-! ## Keys -/

/-- The keys of settings. -/
def fieldNames : List String :=
  ["sender_name", "sender_address", "template_group", "default_email_format",
    "default_template_name", "max_attempts"]

/-- A field is missing or comes twice, or there is a key that is no field. -/
def WrongKeys (keys : List Tree) : Prop :=
  (∃ name ∈ fieldNames, .string (some name) ∉ keys) ∨
    (∃ name ∈ fieldNames, [.string (some name), .string (some name)].Sublist keys) ∨
    ∃ key ∈ keys, ∀ name ∈ fieldNames, key ≠ .string (some name)

theorem MembersWrite.keys_perm {s : Settings} {members : List (Tree × Tree)}
    (h : s.MembersWrite members) :
    (members.map Prod.fst).Perm (fieldNames.map fun name => .string (some name)) := by
  obtain ⟨written, fields, rfl, hperm, hfields⟩ := h
  have hnames : fields.map Prod.fst = fieldNames := by
    cases hfields
    rfl
  have hkeys : (membersOf written).map Prod.fst =
      (written.map Prod.fst).map fun name => .string (some name) := by
    rw [membersOf, List.map_map, List.map_map]
    rfl
  rw [hkeys, ← hnames]
  exact (hperm.map Prod.fst).map _

/-- Whatever the values are, an object with wrong keys writes no settings. -/
theorem WrongKeys.not_membersWrite {members : List (Tree × Tree)}
    (h : WrongKeys (members.map Prod.fst)) (s : Settings) : ¬ s.MembersWrite members := by
  intro hwrite
  have hperm := hwrite.keys_perm
  rcases h with ⟨name, hname, hmissing⟩ | ⟨name, hname, htwice⟩ | ⟨key, hkey, hother⟩
  · exact hmissing (hperm.mem_iff.2 (List.mem_map_of_mem hname))
  · have hnodup : (fieldNames.map fun name => Tree.string (some name)).Nodup := by
      apply List.Nodup.map
      · rintro _ _ ⟨⟩
        rfl
      · decide
    exact List.nodup_iff_sublist.1 (hperm.nodup_iff.2 hnodup) _ htwice
  · obtain ⟨name, hname, rfl⟩ := List.mem_map.1 (hperm.mem_iff.1 hkey)
    exact hother name hname rfl

/-! ## Texts -/

theorem checked_eq_ok_iff {s read : Settings} :
    s.checked = .ok read ↔ s.defect? = none ∧ s = read := by
  unfold checked
  cases s.defect? <;> simp

/-- A text is read as settings if they are decoded from it and have no defect. -/
theorem ofText_eq_ok_iff {text : String} {s : Settings} :
    ofText text = .ok s ↔ s.defect? = none ∧ decode.ofText text = .ok s := by
  unfold ofText
  cases decode.ofText text with
  | error fault => simp
  | ok read =>
    rw [checked_eq_ok_iff]
    constructor
    · rintro ⟨hdefect, rfl⟩
      exact ⟨hdefect, rfl⟩
    · rintro ⟨hdefect, ⟨⟩⟩
      exact ⟨hdefect, rfl⟩

/-- What is written for settings is an object with their fields. -/
theorem membersWrite_toJson (s : Settings) :
    ∃ members, s.toJson.toTree = .object members ∧ s.MembersWrite members := by
  have hfields : s.FieldsWrite [("sender_name", .string (some s.senderName)),
      ("sender_address", .string (some s.senderAddress)),
      ("template_group", .string (some s.templateGroup)),
      ("default_email_format", .string (some s.defaultFormat.name)),
      ("default_template_name", .string (some s.defaultTemplateName)),
      ("max_attempts", .number (.ofNat s.maxAttempts.toNat))] :=
    .fields (.inl rfl) (Numeral.integer?_ofNat _)
  refine ⟨_, rfl, _, _, ?_, .refl _, hfields⟩
  rfl

/-- **Which documents are settings.** What is read from a text has no defect. Let a text write a JSON
object, in whatever way. It is read as settings exactly if these have no defect and the members of the
object are their six fields, once each and in whatever order; and if a key is missing, comes twice or
is no field, the text is refused as malformed, whatever its values are. Settings without defect are
read back from the text that is written for them. -/
theorem documents_of_settings :
    (∀ text s, ofText text = .ok s → s.defect? = none) ∧
    (∀ members text, (Tree.object members).Writes text →
      (∀ s, ofText text = .ok s ↔ s.defect? = none ∧ s.MembersWrite members) ∧
      (WrongKeys (members.map Prod.fst) → ∃ fault, ofText text = .error (.malformed fault))) ∧
    ∀ s, s.defect? = none → ofText s.toJson.render = .ok s := by
  refine ⟨fun text s h => (ofText_eq_ok_iff.1 h).1, fun members text h => ⟨fun s => ?_, ?_⟩, ?_⟩
  · rw [ofText_eq_ok_iff, ofText_of_writes decode h, decode_eq_ok_iff]
  · intro hwrong
    cases hread : decode (.object members) with
    | error fault => exact ⟨fault, by rw [ofText, ofText_of_writes decode h, hread]⟩
    | ok s => exact absurd (decode_eq_ok_iff.1 hread) (hwrong.not_membersWrite s)
  · intro s hdefect
    obtain ⟨members, htree, hmembers⟩ := s.membersWrite_toJson
    rw [ofText_eq_ok_iff, Decoder.ofText_render, htree, decode_eq_ok_iff]
    exact ⟨hdefect, hmembers⟩

/-- Settings with a quote and a character beyond the first plane. -/
def festive : Settings where
  senderName := "\"Santa\" 🎅"
  senderAddress := "santa@example.com"
  templateGroup := "exchange"
  defaultFormat := .multipart
  defaultTemplateName := "notification"
  maxAttempts := 5

/-- Their fields in reverse order, the format as an object. -/
def festiveBackwards : List (String × Json) :=
  [("max_attempts", .number 5), ("default_template_name", .string "notification"),
    ("default_email_format", .object [("multipart", .null)]), ("template_group", .string "exchange"),
    ("sender_address", .string "santa@example.com"), ("sender_name", .string "\"Santa\" 🎅")]

/-- A text with white space around the fields. -/
def festiveText : String := "\n " ++ (Json.object festiveBackwards).render ++ "\t"

/-- A present, as the two halves of a surrogate pair. -/
def present : List Char :=
  ['"', '\\', 'u', 'd', '8', '3', 'c', '\\', 'u', 'D', 'F', '8', '1', '"']

/-- An object with the present and nothing else. -/
def presentAlone : String :=
  String.ofList ('\x7b' :: (Json.quoted "sender_name" ++ ':' :: (' ' :: present) ++ ['\x7d']))

/-- The six fields are read in reverse order and with white space around them; one of them alone is
refused. -/
theorem documents_of_settings_festive :
    festive.defect? = none ∧ ofText festive.toJson.render = .ok festive ∧
      (∃ members, (Tree.object members).Writes festiveText ∧ ofText festiveText = .ok festive) ∧
      ∃ members fault, (Tree.object members).Writes presentAlone ∧
        WrongKeys (members.map Prod.fst) ∧ ofText presentAlone = .error (.malformed fault) := by
  obtain ⟨-, hobject, hwritten⟩ := documents_of_settings
  have hdefect : festive.defect? = none := by decide +kernel
  have hfields : festive.FieldsWrite [("sender_name", .string (some "\"Santa\" 🎅")),
      ("sender_address", .string (some "santa@example.com")),
      ("template_group", .string (some "exchange")),
      ("default_email_format", .object [(.string (some "multipart"), .null)]),
      ("default_template_name", .string (some "notification")),
      ("max_attempts", .number (.ofNat 5))] :=
    .fields (.inr rfl) (Numeral.integer?_ofNat 5)
  have hmembers : festive.MembersWrite (Json.memberTrees festiveBackwards) :=
    ⟨_, _, rfl, List.reverse_perm _, hfields⟩
  have hbackwards : (Tree.object (Json.memberTrees festiveBackwards)).Writes festiveText := by
    have hrender : (Tree.object (Json.memberTrees festiveBackwards)).Writes
        (Json.object festiveBackwards).render :=
      Json.writes_render (.object festiveBackwards)
    exact hrender.padded (by decide +kernel) (by decide +kernel)
  have hpresent : Tree.StringSpells (some "🎁") present := by
    have hpieces : Tree.PiecesSpell [.unit 0xD83C, .unit 0xDF81]
        (['\\', 'u', 'd', '8', '3', 'c'] ++ (['\\', 'u', 'D', 'F', '8', '1'] ++ [])) :=
      .cons (.unit rfl) (.cons (.unit rfl) .nil)
    have hstand : Tree.StandFor [.unit 0xD83C, .unit 0xDF81] (some "🎁") := by
      show [0xD83C, 0xDF81] = "🎁".toList.flatMap Tree.utf16
      decide +kernel
    exact .quoted hstand hpieces
  have halone : (Tree.object [(.string (some "sender_name"), .string (some "🎁"))]).Writes
      presentAlone := by
    rw [Tree.Writes, presentAlone, String.toList_ofList]
    have hvalue : Tree.Padded (Tree.StringSpells (some "🎁")) ([' '] ++ (present ++ [])) :=
      .around (by decide) hpresent Tree.blank_nil
    exact .bare ⟨_, .colon (.bare (.string (Json.stringSpells_quoted "sender_name"))) hvalue, rfl⟩
  have hwrong : WrongKeys [.string (some "sender_name")] :=
    .inl ⟨"max_attempts", by decide, by simp⟩
  obtain ⟨fault, hfault⟩ := (hobject _ _ halone).2 hwrong
  exact ⟨hdefect, hwritten festive hdefect,
    ⟨_, hbackwards, ((hobject _ _ hbackwards).1 festive).2 ⟨hdefect, hmembers⟩⟩,
    _, fault, halone, hwrong, hfault⟩

end Settings

end GiftExchange
