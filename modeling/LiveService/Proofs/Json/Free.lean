import Mathlib.Order.Basic
import Mathlib.Data.String.Basic
import LiveService.Proofs.Json.RoundTrip

/-!
Free values.  What a document can hold is canonical: its whole numbers are words and the keys of its objects
ascend.  Such a value is read back if it is shallow enough, and every value that was read is one.
-/

namespace LiveService.Json

mutual

def depth : Json → Nat
  | .null => 0
  | .bool _ => 0
  | .number _ => 0
  | .text _ => 0
  | .array items => depthOfItems items + 1
  | .object members => depthOfMembers members + 1

def depthOfItems : List Json → Nat
  | [] => 0
  | item :: rest => max item.depth (depthOfItems rest)

def depthOfMembers : List (String × Json) → Nat
  | [] => 0
  | (_, value) :: rest => max value.depth (depthOfMembers rest)

end

def IsAscending (members : List (String × Json)) : Prop :=
  members.Pairwise fun left right => left.1 < right.1

instance (members : List (String × Json)) : Decidable (IsAscending members) :=
  inferInstanceAs (Decidable (members.Pairwise fun left right => left.1 < right.1))

mutual

/-- Whole numbers are of 64 bits, and the keys of every object ascend. -/
def isCanonical : Json → Bool
  | .null => true
  | .bool _ => true
  | .number (.integer value) => isWord value
  | .number (.float _) => true
  | .text _ => true
  | .array items => areCanonical items
  | .object members => decide (IsAscending members) && haveCanonical members

def areCanonical : List Json → Bool
  | [] => true
  | item :: rest => item.isCanonical && areCanonical rest

def haveCanonical : List (String × Json) → Bool
  | [] => true
  | (_, value) :: rest => value.isCanonical && haveCanonical rest

end

theorem insert_of_greater {key : String} (value : Json) {held : List (String × Json)}
    (greater : ∀ member ∈ held, member.1 < key) : insert key value held = held ++ [(key, value)] := by
  induction held with
  | nil => rfl
  | cons member held ih =>
    obtain ⟨other, kept⟩ := member
    have less : other < key := greater _ List.mem_cons_self
    have later : ∀ member ∈ held, member.1 < key :=
      fun member present => greater member (List.mem_cons_of_mem _ present)
    rw [insert, if_neg less.asymm, if_neg less.ne', ih later]
    rfl

mutual

theorem readAny_node : ∀ (json : Json), json.isFloatFree = true → json.isCanonical = true →
    ∀ room, json.depth ≤ room → readAny room json.node = .ok json
  | .null, _, _, room, _ => by rw [node, readAny]
  | .bool value, _, _, room, _ => by rw [node, readAny]
  | .number (.integer value), _, canonical, room, _ => by
    simp only [node, numberNode, readAny, Numeral.read, number?_numeralOf canonical, Except.map]
  | .text value, _, _, room, _ => by
    simp only [node, readAny, text_literalOf, Except.map]
  | .array items, floatFree, canonical, room + 1, shallow => by
    have read := readAnyItems_itemsOf items floatFree canonical room (Nat.le_of_succ_le_succ shallow)
    simp only [node, readAny, read, Except.map]
  | .object members, floatFree, canonical, room + 1, shallow => by
    rw [isCanonical, Bool.and_eq_true, decide_eq_true_eq] at canonical
    have read := readAnyMembers_membersOf members floatFree canonical.2 room
      (Nat.le_of_succ_le_succ shallow) [] canonical.1
    simp only [node, readAny, read, List.nil_append, Except.map]

theorem readAnyItems_itemsOf : ∀ (items : List Json), areFloatFree items = true →
    areCanonical items = true → ∀ room, depthOfItems items ≤ room →
      readAnyItems room (itemsOf items) = .ok items
  | [], _, _, room, _ => by rw [itemsOf, readAnyItems]
  | item :: items, floatFree, canonical, room, shallow => by
    rw [areFloatFree, Bool.and_eq_true] at floatFree
    rw [areCanonical, Bool.and_eq_true] at canonical
    rw [depthOfItems] at shallow
    have first := readAny_node item floatFree.1 canonical.1 room (by omega)
    have later := readAnyItems_itemsOf items floatFree.2 canonical.2 room (by omega)
    simp only [itemsOf, readAnyItems, first, later, Except.map]

theorem readAnyMembers_membersOf : ∀ (members : List (String × Json)),
    haveFloatFree members = true → haveCanonical members = true →
    ∀ room, depthOfMembers members ≤ room → ∀ held : List (String × Json),
      IsAscending (held ++ members) →
      readAnyMembers room held (membersOf members) = .ok (held ++ members)
  | [], _, _, room, _, held, _ => by rw [membersOf, readAnyMembers, List.append_nil]
  | (key, value) :: members, floatFree, canonical, room, shallow, held, ascending => by
    rw [haveFloatFree, Bool.and_eq_true] at floatFree
    rw [haveCanonical, Bool.and_eq_true] at canonical
    rw [depthOfMembers] at shallow
    have greater : ∀ member ∈ held, member.1 < key := fun member present =>
      (List.pairwise_append.mp ascending).2.2 member present (key, value) List.mem_cons_self
    rw [List.append_cons] at ascending ⊢
    have first := readAny_node value floatFree.1 canonical.1 room (by omega)
    have later := readAnyMembers_membersOf members floatFree.2 canonical.2 room (by omega)
      (held ++ [(key, value)]) ascending
    simp only [membersOf, readAnyMembers, text_literalOf, first, insert_of_greater value greater, later]

end

theorem isWord_of_number? {numeral : Numeral} {value : Int}
    (number : numeral.number? = some (.integer value)) : isWord value = true := by
  simp only [Numeral.number?] at number
  split at number
  · rename_i whole
    simp only [Bool.and_eq_true, decide_eq_true_eq] at whole
    cases number
    exact Codec.isWord_natCast _ whole.1.2
  · split at number
    · rename_i negated
      simp only [Bool.and_eq_true, decide_eq_true_eq] at negated
      cases number
      simp only [isWord, Bool.and_eq_true, decide_eq_true_eq]
      omega
    · obtain ⟨magnitude, _, float⟩ := Option.map_eq_some_iff.mp number
      cases float

theorem mem_insert {key : String} {value : Json} {member : String × Json} {held : List (String × Json)}
    (present : member ∈ insert key value held) : member = (key, value) ∨ member ∈ held := by
  induction held with
  | nil => exact .inl (List.mem_singleton.mp present)
  | cons first held ih =>
    obtain ⟨other, kept⟩ := first
    rw [insert] at present
    split at present
    · exact List.mem_cons.mp present
    · split at present
      · exact (List.mem_cons.mp present).imp id (List.mem_cons_of_mem _)
      · rcases List.mem_cons.mp present with head | tail
        · exact .inr (head ▸ List.mem_cons_self)
        · exact (ih tail).imp id (List.mem_cons_of_mem _)

theorem ascending_insert (key : String) (value : Json) {held : List (String × Json)}
    (ascending : IsAscending held) :
    IsAscending (insert key value held) := by
  induction held with
  | nil => exact List.pairwise_singleton _ _
  | cons first held ih =>
    obtain ⟨other, kept⟩ := first
    have tail := (List.pairwise_cons.mp ascending).2
    have least := (List.pairwise_cons.mp ascending).1
    rw [insert]
    split
    · rename_i less
      refine List.pairwise_cons.mpr ⟨fun member present => ?_, ascending⟩
      rcases List.mem_cons.mp present with rfl | present
      · exact less
      · exact less.trans (least member present)
    · rename_i notLess
      split
      · rename_i same
        subst same
        exact List.pairwise_cons.mpr ⟨least, tail⟩
      · rename_i different
        have less : other < key := lt_of_le_of_ne (not_lt.mp notLess) (Ne.symm different)
        refine List.pairwise_cons.mpr ⟨fun member present => ?_, ih tail⟩
        rcases mem_insert present with rfl | present
        · exact less
        · exact least member present

theorem haveCanonical_insert (key : String) {value : Json} (canonical : value.isCanonical = true)
    {held : List (String × Json)} (kept : haveCanonical held = true) :
    haveCanonical (insert key value held) = true := by
  induction held with
  | nil => simp [insert, haveCanonical, canonical]
  | cons first held ih =>
    obtain ⟨other, value⟩ := first
    rw [haveCanonical, Bool.and_eq_true] at kept
    rw [insert]
    split
    · simp [haveCanonical, canonical, kept]
    · split
      · simp [haveCanonical, canonical, kept]
      · simp [haveCanonical, kept, ih kept.2]

theorem depthOfMembers_insert (key : String) {value : Json} {room : Nat}
    (shallow : value.depth ≤ room) {held : List (String × Json)} (kept : depthOfMembers held ≤ room) :
    depthOfMembers (insert key value held) ≤ room := by
  induction held with
  | nil => simpa [insert, depthOfMembers] using shallow
  | cons first held ih =>
    obtain ⟨other, value⟩ := first
    rw [depthOfMembers] at kept
    rw [insert]
    split
    · simp only [depthOfMembers]
      omega
    · split
      · simp only [depthOfMembers]
        omega
      · have tail := ih (by omega)
        simp only [depthOfMembers]
        omega

mutual

theorem canonical_of_readAny : ∀ (tokens : Node) (room : Nat) (json : Json),
    readAny room tokens = .ok json → json.isCanonical = true ∧ json.depth ≤ room
  | .null, room, json, read => by
    rw [readAny] at read
    cases read
    exact ⟨rfl, Nat.zero_le _⟩
  | .bool value, room, json, read => by
    rw [readAny] at read
    cases read
    exact ⟨rfl, Nat.zero_le _⟩
  | .number numeral, room, json, read => by
    rw [readAny, Numeral.read] at read
    split at read
    · rename_i number given
      cases read
      cases number with
      | integer value => exact ⟨isWord_of_number? given, Nat.zero_le _⟩
      | float value => exact ⟨rfl, Nat.zero_le _⟩
    · cases read
  | .text literal, room, json, read => by
    rw [readAny] at read
    cases spelled : literal.text with
    | error error => simp [spelled, Except.map] at read
    | ok text =>
      simp only [spelled, Except.map, Except.ok.injEq] at read
      subst read
      exact ⟨rfl, Nat.zero_le _⟩
  | .array items, 0, json, read => by
    rw [readAny] at read
    cases read
  | .array items, room + 1, json, read => by
    rw [readAny] at read
    cases inside : readAnyItems room items with
    | error error => simp [inside, Except.map] at read
    | ok values =>
      simp only [inside, Except.map, Except.ok.injEq] at read
      subst read
      have ⟨canonical, shallow⟩ := canonical_of_readAnyItems items room values inside
      exact ⟨canonical, Nat.succ_le_succ shallow⟩
  | .object members, 0, json, read => by
    rw [readAny] at read
    cases read
  | .object members, room + 1, json, read => by
    rw [readAny] at read
    cases inside : readAnyMembers room [] members with
    | error error => simp [inside, Except.map] at read
    | ok values =>
      simp only [inside, Except.map, Except.ok.injEq] at read
      subst read
      have ⟨ascending, canonical, shallow⟩ := canonical_of_readAnyMembers members room [] values
        List.Pairwise.nil rfl (Nat.zero_le _) inside
      refine ⟨?_, Nat.succ_le_succ shallow⟩
      rw [isCanonical, decide_eq_true ascending, canonical]
      rfl
  | .absent, room, json, read => by cases room <;> simp [readAny] at read
  | .broken fault, room, json, read => by cases room <;> simp [readAny] at read
  | .unfinished, room, json, read => by cases room <;> simp [readAny] at read

theorem canonical_of_readAnyItems : ∀ (tokens : Items) (room : Nat) (items : List Json),
    readAnyItems room tokens = .ok items → areCanonical items = true ∧ depthOfItems items ≤ room
  | .close, room, items, read => by
    rw [readAnyItems] at read
    cases read
    exact ⟨rfl, Nat.zero_le _⟩
  | .stop fault, room, items, read => by
    rw [readAnyItems] at read
    cases read
  | .item tokens rest, room, items, read => by
    rw [readAnyItems] at read
    split at read
    · cases read
    · rename_i value first
      cases inside : readAnyItems room rest with
      | error error => simp [inside, Except.map] at read
      | ok values =>
        simp only [inside, Except.map, Except.ok.injEq] at read
        subst read
        have head := canonical_of_readAny tokens room value first
        have tail := canonical_of_readAnyItems rest room values inside
        rw [areCanonical, head.1, tail.1, depthOfItems]
        exact ⟨rfl, Nat.max_le.mpr ⟨head.2, tail.2⟩⟩

theorem canonical_of_readAnyMembers : ∀ (tokens : Members) (room : Nat)
    (held members : List (String × Json)), IsAscending held →
    haveCanonical held = true → depthOfMembers held ≤ room →
    readAnyMembers room held tokens = .ok members →
      IsAscending members ∧ haveCanonical members = true ∧
        depthOfMembers members ≤ room
  | .close, room, held, members, ascending, canonical, shallow, read => by
    rw [readAnyMembers] at read
    cases read
    exact ⟨ascending, canonical, shallow⟩
  | .stop fault, room, held, members, _, _, _, read => by
    rw [readAnyMembers] at read
    cases read
  | .dangling fault, room, held, members, _, _, _, read => by
    rw [readAnyMembers] at read
    cases read
  | .member key tokens rest, room, held, members, ascending, canonical, shallow, read => by
    rw [readAnyMembers] at read
    split at read
    · cases read
    · rename_i name _
      split at read
      · cases read
      · rename_i value first
        have head := canonical_of_readAny tokens room value first
        exact canonical_of_readAnyMembers rest room _ members (ascending_insert name value ascending)
          (haveCanonical_insert name head.1 canonical) (depthOfMembers_insert name head.2 shallow) read

end

/-- A canonical value without numbers of double precision that is shallow enough is read back. -/
theorem restores_any {json : Json} (floatFree : json.isFloatFree = true)
    (canonical : json.isCanonical = true) : Codec.any.Restores json.depth json where
  floatFree := floatFree
  read := readAny_node json floatFree canonical

end LiveService.Json
