import LiveService.Proofs.Json.RoundTrip

/-!
Documents that mean the same.  The members of a record may come in any order, members that the record does
not know may stand between them, and a member may be left out where the record's defaults stand for it.
-/

namespace LiveService

open Json

namespace Json

/-- What may be rewritten in the document of a value: nothing, or the members of a record by their names.
`standard` holds what stands for members that are left out. -/
inductive Outline where
  | value
  | record (standard : Json) (parts : List (String × Outline))

def IsUnknown (parts : List (String × Outline)) (entry : Literal × Node) : Prop :=
  ∃ name, entry.1.text = .ok name ∧ name ∉ parts.map Prod.fst

mutual

inductive Recasts : Outline → Json → Node → Prop where
  | same {outline : Outline} {json : Json} : Recasts outline json json.node
  | text {outline : Outline} {value : String} {literal : Literal} (spelled : literal.text = .ok value) :
      Recasts outline (.text value) (.text literal)
  | record {standard : Json} {parts : List (String × Outline)} {members : List (String × Json)}
      {kept foreign entries : List (Literal × Node)} (keeps : Keeps standard parts members kept)
      (unknown : ∀ entry ∈ foreign, IsUnknown parts entry)
      (shuffled : entries.Perm (kept ++ foreign)) :
      Recasts (.record standard parts) (.object members) (.object (.ofEntries entries))

inductive Keeps : Json → List (String × Outline) → List (String × Json) → List (Literal × Node) → Prop where
  | nil {standard : Json} : Keeps standard [] [] []
  | kept {standard json : Json} {name : String} {outline : Outline} {parts : List (String × Outline)}
      {members : List (String × Json)} {key : Literal} {node : Node} {entries : List (Literal × Node)}
      (named : key.text = .ok name) (recast : Recasts outline json node)
      (rest : Keeps standard parts members entries) :
      Keeps standard ((name, outline) :: parts) ((name, json) :: members) ((key, node) :: entries)
  | omitted {standard json : Json} {name : String} {outline : Outline} {parts : List (String × Outline)}
      {members : List (String × Json)} {entries : List (Literal × Node)}
      (stands : standard.get? name = some json) (rest : Keeps standard parts members entries) :
      Keeps standard ((name, outline) :: parts) ((name, json) :: members) entries

end

theorem Keeps.named {standard : Json} : ∀ {parts : List (String × Outline)} {members : List (String × Json)}
    {entries : List (Literal × Node)}, Keeps standard parts members entries →
    ∀ entry ∈ entries, ∃ name ∈ parts.map Prod.fst, entry.1.text = .ok name
  | _, _, _, .nil, _, member => absurd member List.not_mem_nil
  | _, _, _, .kept named _ rest, entry, member => by
    rcases List.mem_cons.mp member with rfl | later
    · exact ⟨_, List.mem_cons_self, named⟩
    · obtain ⟨name, known, spelled⟩ := rest.named entry later
      exact ⟨name, List.mem_cons_of_mem _ known, spelled⟩
  | _, _, _, .omitted _ rest, entry, member => by
    obtain ⟨name, known, spelled⟩ := rest.named entry member
    exact ⟨name, List.mem_cons_of_mem _ known, spelled⟩

theorem Recasts.ne_null {outline : Outline} {json : Json} {node : Node} (recasts : Recasts outline json node)
    (floatFree : json.isFloatFree = true) (present : json ≠ .null) : node ≠ .null := by
  cases recasts with
  | same => exact Codec.node_ne_null floatFree present
  | text | record => exact fun equal => Node.noConfusion equal

theorem skip_of_mem_ofEntries {entries : List (Literal × Node)}
    (skips : (Members.ofEntries entries).skip = .ok ()) : ∀ entry ∈ entries, entry.2.skip = .ok () := by
  induction entries with
  | nil => exact nofun
  | cons entry entries ih =>
    obtain ⟨key, node⟩ := entry
    simp only [Members.ofEntries, Members.skip] at skips
    split at skips
    · cases skips
    · split at skips
      · cases skips
      · rename_i skipped
        exact List.forall_mem_cons.mpr ⟨skipped, ih skips⟩

end Json

namespace Codec

variable {Value Other : Type} {codec : Codec Value} {outline : Outline} {nesting : Nat} {value : Value}

/-- A value is read off every document that may stand for the one that was written for it. -/
structure Honours (codec : Codec Value) (outline : Outline) (nesting : Nat) (value : Value) : Prop where
  restores : codec.Restores nesting value
  recast : ∀ node, Recasts outline (codec.write value) node → node.skip = .ok () →
    ∀ room, nesting ≤ room → codec.read room node = .ok value

theorem Restores.eq_of_write {other : Value} (restores : codec.Restores nesting value)
    (otherRestores : codec.Restores nesting other) (alike : codec.write value = codec.write other) :
    value = other := by
  have read := restores.read nesting (Nat.le_refl nesting)
  rw [alike, otherRestores.read nesting (Nat.le_refl nesting)] at read
  cases read
  rfl

theorem Restores.honours_same (restores : codec.Restores nesting value)
    (fixed : ∀ node, Recasts outline (codec.write value) node → node = (codec.write value).node) :
    codec.Honours outline nesting value where
  restores := restores
  recast node recasts _ := fixed node recasts ▸ restores.read

theorem honours_text (value : String) : text.Honours outline nesting value where
  restores := restores_text value
  recast node recasts _ room enough := by
    cases recasts with
    | same => exact (restores_text value).read room enough
    | text spelled => exact spelled

theorem honours_flag (value : Bool) : flag.Honours outline nesting value :=
  (restores_flag value).honours_same fun _ recasts => by
    cases recasts
    rfl

theorem honours_word32 (value : UInt32) : word32.Honours outline nesting value :=
  (restores_word32 value).honours_same fun _ recasts => by
    cases recasts
    rfl

theorem honours_word64 (value : UInt64) : word64.Honours outline nesting value :=
  (restores_word64 value).honours_same fun _ recasts => by
    cases recasts
    rfl

theorem honours_choice {word : Value → String} {values : List Value}
    (found : values.find? (fun other => word other == word value) = Option.some value) :
    (choice word values).Honours outline nesting value where
  restores := restores_choice found
  recast node recasts _ room enough := by
    cases recasts with
    | same => exact (restores_choice found).read room enough
    | text spelled => simp only [choice, spelled, found]

theorem honours_none : codec.optional.Honours outline nesting none :=
  restores_none.honours_same fun _ recasts => by
    cases recasts
    rfl

theorem Honours.some (honours : codec.Honours outline nesting value) (present : codec.write value ≠ .null) :
    codec.optional.Honours outline nesting (some value) where
  restores := honours.restores.some present
  recast node recasts skips room enough := by
    have solid := recasts.ne_null honours.restores.floatFree present
    simp only [optional]
    rw [honours.recast node recasts skips room enough]
    rfl

theorem Honours.along {into : Value → Other} {back : Other → Value} {other : Other}
    (honours : codec.Honours outline nesting (back other)) (whole : into (back other) = other) :
    (codec.along into back).Honours outline nesting other where
  restores := honours.restores.along whole
  recast node recasts skips room enough := by
    simp only [Codec.along, honours.recast node recasts skips room enough, Except.map, whole]

end Codec

namespace Field

variable {Value : Type} {standard : Json} {outline : Outline} {nesting : Nat} {value : Value}

structure Honours (field : Field Value) (standard : Json) (outline : Outline) (nesting : Nat)
    (value : Value) : Prop where
  codec : field.codec.Honours outline nesting value
  shown : field.shown value = true
  lacked : standard.get? field.name = some (field.codec.write value) → field.whenMissing = some value

theorem honours_required (name : String) {codec : Codec Value} (honours : codec.Honours outline nesting value)
    (needed : standard.get? name = none) : (required name codec).Honours standard outline nesting value where
  codec := honours
  shown := rfl
  lacked stands := by
    rw [required, needed] at stands
    cases stands

theorem honours_withDefault (name : String) (default : Value) {codec : Codec Value}
    (honours : ∀ value, codec.Honours outline nesting value)
    (stands : standard.get? name = some (codec.write default)) :
    (withDefault name codec default).Honours standard outline nesting value where
  codec := honours value
  shown := rfl
  lacked given := by
    have alike : codec.write default = codec.write value := Option.some.inj (stands.symm.trans given)
    exact congrArg some ((honours default).restores.eq_of_write (honours value).restores alike)

theorem Honours.restores {field : Field Value} (honours : field.Honours standard outline nesting value) :
    field.Restores nesting value where
  codec := honours.codec.restores
  hidden hidden := by
    rw [honours.shown] at hidden
    cases hidden

end Field

namespace Fields

variable {Value Values Held : Type} {standard : Json} {nesting : Nat}

inductive Honours (standard : Json) (nesting : Nat) : List (String × Outline) → {Values Held : Type} →
    Fields Values Held → Values → Prop where
  | nil : Honours standard nesting [] .nil ()
  | cons {Value Values Held : Type} {outline : Outline} {parts : List (String × Outline)}
      {field : Field Value} {rest : Fields Values Held} {value : Value} {values : Values}
      (head : field.Honours standard outline nesting value) (fresh : field.name ∉ parts.map Prod.fst)
      (tail : Honours standard nesting parts rest values) :
      Honours standard nesting ((field.name, outline) :: parts) (.cons field rest) (value, values)

theorem Honours.names_eq {parts : List (String × Outline)} {fields : Fields Values Held} {values : Values}
    (honours : fields.Honours standard nesting parts values) : fields.names = parts.map Prod.fst := by
  induction honours with
  | nil => rfl
  | cons head fresh tail ih => rw [names, ih, List.map_cons]

theorem Honours.restores {parts : List (String × Outline)} {fields : Fields Values Held} {values : Values}
    (honours : fields.Honours standard nesting parts values) : fields.Restores nesting values := by
  induction honours with
  | nil => exact .nil
  | cons head fresh tail ih => exact .cons head.restores (tail.names_eq ▸ fresh) ih

theorem readMembers_one {field : Field Value} (rest : Fields Values Held) {room : Nat} {value : Value}
    {key : Literal} {node : Node} {front back : List (Literal × Node)} (named : key.text = .ok field.name)
    (read : field.codec.read room node = .ok value)
    (others : ∀ entry ∈ front ++ back, entry.1.text ≠ .ok field.name) (held : Held) :
    (Fields.cons field rest).readMembers room (none, held) (.ofEntries (front ++ (key, node) :: back)) =
      (rest.readMembers room held (.ofEntries (front ++ back))).map fun values => (value, values) := by
  obtain ⟨othersFront, othersBack⟩ := List.forall_mem_append.mp others
  refine readMembers_past field rest room (fun held => ?_) othersFront held
  simp only [Members.ofEntries, readMembers, named, put, if_true, Option.isSome_none, Bool.false_eq_true,
    if_false, read, Except.map]
  exact readMembers_cons field rest room rfl othersBack

theorem readMembers_nil {room : Nat} {entries : List (Literal × Node)}
    (spelled : ∀ entry ∈ entries, ∃ name, entry.1.text = .ok name)
    (skips : ∀ entry ∈ entries, entry.2.skip = .ok ()) :
    Fields.nil.readMembers room () (.ofEntries entries) = .ok () := by
  induction entries with
  | nil => rfl
  | cons entry entries ih =>
    obtain ⟨⟨name, named⟩, spelled⟩ := List.forall_mem_cons.mp spelled
    obtain ⟨skipped, skips⟩ := List.forall_mem_cons.mp skips
    simp only [Members.ofEntries, readMembers, named, put, skipped, Except.map]
    exact ih spelled skips

/-- The fields are read off their own members in any order, whatever else stands between these. -/
theorem Honours.readMembers {parts : List (String × Outline)} {fields : Fields Values Held}
    {values : Values} (honours : fields.Honours standard nesting parts values) {room : Nat}
    (enough : nesting ≤ room) {kept foreign entries : List (Literal × Node)}
    (keeps : Keeps standard parts (fields.write values) kept)
    (unknown : ∀ entry ∈ foreign, IsUnknown parts entry)
    (shuffled : entries.Perm (kept ++ foreign)) (skips : ∀ entry ∈ entries, entry.2.skip = .ok ()) :
    fields.readMembers room fields.start (.ofEntries entries) = .ok values := by
  induction honours generalizing kept entries with
  | nil =>
    cases keeps
    refine readMembers_nil (fun entry member => ?_) skips
    obtain ⟨name, spelled, _⟩ := unknown entry (shuffled.mem_iff.mp member)
    exact ⟨name, spelled⟩
  | @cons Value Values Held outline parts field rest value values head fresh tail ih =>
    simp only [write, head.shown, if_true] at keeps
    have unknownLater : ∀ entry ∈ foreign, IsUnknown parts entry := by
      intro entry member
      obtain ⟨name, spelled, strange⟩ := unknown entry member
      exact ⟨name, spelled, fun known => strange (List.mem_cons_of_mem _ known)⟩
    have others {later : List (Literal × Node)} (keeps : Keeps standard parts (rest.write values) later) :
        ∀ entry ∈ later ++ foreign, entry.1.text ≠ .ok field.name := by
      intro entry member same
      rcases List.mem_append.mp member with own | strange
      · obtain ⟨name, known, spelled⟩ := keeps.named entry own
        cases spelled.symm.trans same
        exact fresh known
      · obtain ⟨name, spelled, strange⟩ := unknown entry strange
        cases spelled.symm.trans same
        exact strange List.mem_cons_self
    -- The other fields read what the first one leaves: all members but its own, in the same order.
    cases keeps with
    | omitted stands keeps =>
      have missing : none.or field.whenMissing = some value := head.lacked stands
      rw [start, readMembers_cons field rest room missing
        (fun entry member => others keeps entry (shuffled.mem_iff.mp member)),
        ih keeps unknownLater shuffled skips]
      rfl
    | @kept _ _ _ _ _ _ key node later named recast keeps =>
      obtain ⟨front, back, rfl⟩ := List.append_of_mem (shuffled.mem_iff.mpr List.mem_cons_self)
      have remaining : (front ++ back).Perm (later ++ foreign) :=
        (List.perm_middle.symm.trans shuffled).cons_inv
      have apart : ∀ entry ∈ front ++ back, entry.1.text ≠ .ok field.name :=
        fun entry member => others keeps entry (remaining.mem_iff.mp member)
      have skipsAll := List.forall_mem_cons.mp fun entry member =>
        skips entry (List.perm_middle.mem_iff.mpr member)
      rw [start, readMembers_one rest named (head.codec.recast node recast skipsAll.1 room enough) apart,
        ih keeps unknownLater remaining skipsAll.2]
      rfl

end Fields

namespace Codec

variable {Values Held : Type} {standard : Json} {nesting : Nat}

theorem honours_record (name : String) {parts : List (String × Outline)} {fields : Fields Values Held}
    {values : Values} (honours : fields.Honours standard nesting parts values) :
    (record name fields).Honours (.record standard parts) (nesting + 1) values where
  restores := restores_record name honours.restores
  recast node recasts skips room enough := by
    cases room with
    | zero => exact absurd enough (by omega)
    | succ room =>
      cases recasts with
      | same => exact (restores_record name honours.restores).read (room + 1) enough
      | record keeps unknown shuffled =>
        exact honours.readMembers (Nat.le_of_succ_le_succ enough) keeps unknown shuffled
          (skip_of_mem_ofEntries skips)

theorem Honours.decode {Value : Type} {codec : Codec Value} {outline : Outline} {value : Value}
    (honours : codec.Honours outline nesting value) (shallow : nesting ≤ nestingLimit) {node : Node}
    (recasts : Recasts outline (codec.write value) node) {octets after : Bytes}
    (spelled : Spells node octets) (closes : IsGap after) :
    codec.decode (octets ++ after) = .ok value :=
  decode_of_spells spelled closes (honours.recast node recasts spelled.skip nestingLimit shallow)

end Codec

end LiveService
