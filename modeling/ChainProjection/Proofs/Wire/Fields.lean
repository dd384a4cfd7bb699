import ChainProjection.Json.Decoder
import ChainProjection.Proofs.Readers

/-!
# Records read back

A record is written by `Json.ofMembers`, which puts its members in the order of their names, and
read field by field.  **What a reader sees of an object is the value of each name, so the order does
not matter to it.**  `Fields.Reads` speaks of the values alone, is built up along the fields of a
record (`Reads.seq`), and holds of the object whatever order its members were put in
(`Reads.ofObject`).  What this needs is that no name occurs twice; of two values under one name the
reader would see one.

A reader also checks every member before it puts anything together, those it has no field for too.
So `Reads` has two parts, and both are built up together: each member passes the check, and the
fields read as the value.

A record may come as an array as well, with its fields in order, and a variant of two values is
written as one; `ReadsItems` is the same for items, with what is left over.  And a third relation,
`Gives`, is about readers and not about writers: whatever the fields read, in either form, has a
property.  It is what bounds the numbers that can be read at all.

The variants of a union that is tagged inside are records with one member more (`tagged_withTag`).
-/

namespace ChainProjection.Json

variable {α β : Type} {members members' : List (String × Json)}

/-! ### Members by name -/

/-- A member with a new name is added, at its place in the order. -/
theorem insertMember_perm {name : String} {value : Json} (h : name ∉ members.map Prod.fst) :
    (insertMember name value members).Perm ((name, value) :: members) := by
  induction members with
  | nil => rfl
  | cons member rest ih =>
    obtain ⟨n, v⟩ := member
    rw [List.map_cons, List.mem_cons, not_or] at h
    rw [insertMember, if_neg h.1]
    split
    · rfl
    · exact ((ih h.2).cons _).trans (List.Perm.swap ..)

/-- Members put in one after the other are all there, if no name occurs twice. -/
theorem foldl_insertMember_perm {done : List (String × Json)}
    (h : ((done ++ members).map Prod.fst).Nodup) :
    (members.foldl (fun done member ↦ insertMember member.1 member.2 done) done).Perm
      (done ++ members) := by
  induction members generalizing done with
  | nil => simp
  | cons member rest ih =>
    -- The member just put in moves to the front of those that are still to come.
    have hmiddle : (done ++ member :: rest).Perm (member :: done ++ rest) := List.perm_middle
    have hnodup : ((member :: done ++ rest).map Prod.fst).Nodup :=
      (hmiddle.map Prod.fst).nodup_iff.1 h
    have hfresh : member.1 ∉ done.map Prod.fst := by
      rw [List.cons_append, List.map_cons, List.nodup_cons, List.map_append,
        List.mem_append, not_or] at hnodup
      exact hnodup.1.1
    have hinsert : (insertMember member.1 member.2 done).Perm (member :: done) :=
      insertMember_perm hfresh
    have happend := hinsert.append_right rest
    exact ((ih ((happend.map Prod.fst).nodup_iff.2 hnodup)).trans happend).trans hmiddle.symm

/-- The members of an object are the ones it was made of, if no name occurs twice. -/
theorem ofMembers_eq_object (h : (members.map Prod.fst).Nodup) :
    ∃ sorted, ofMembers members = .object sorted ∧ sorted.Perm members :=
  ⟨_, rfl, foldl_insertMember_perm (by simpa using h)⟩

/-- The value of a name is that of one of the members. -/
theorem mem_of_member?_eq_some {name : String} {value : Json}
    (h : member? name members = some value) : (name, value) ∈ members := by
  induction members with
  | nil => cases h
  | cons member rest ih =>
    obtain ⟨n, v⟩ := member
    rw [member?] at h
    split at h
    · next heq =>
      rw [heq, Option.some_inj.1 h]
      exact List.mem_cons_self
    · exact List.mem_cons_of_mem _ (ih h)

/-- Of names that occur once, every member is the value of its name. -/
theorem member?_eq_some_iff (hnodup : (members.map Prod.fst).Nodup) {name : String}
    {value : Json} : member? name members = some value ↔ (name, value) ∈ members := by
  refine ⟨mem_of_member?_eq_some, fun h ↦ ?_⟩
  induction members with
  | nil => cases h
  | cons member rest ih =>
    obtain ⟨n, v⟩ := member
    rw [List.map_cons, List.nodup_cons] at hnodup
    rw [member?]
    rcases List.mem_cons.1 h with hhead | hrest
    · cases hhead
      rw [if_pos rfl]
    · have hne : n ≠ name := by
        rintro rfl
        exact hnodup.1 (List.mem_map.2 ⟨_, hrest, rfl⟩)
      rw [if_neg hne]
      exact ih hnodup.2 hrest

/-- The value of a name does not depend on the order, if names occur once. -/
theorem member?_perm (hperm : members'.Perm members) (hnodup : (members.map Prod.fst).Nodup)
    (name : String) : member? name members' = member? name members := by
  have hnodup' := (hperm.map Prod.fst).nodup_iff.2 hnodup
  ext value
  rw [member?_eq_some_iff hnodup', member?_eq_some_iff hnodup, hperm.mem_iff]

/-! ### Fields -/

namespace Fields

/-- Wherever names have the values `value?` gives, the fields read as `x`. -/
def Reads (fields : Fields α) (value? : String → Option Json) (x : α) : Prop :=
  (∀ name value, value? name = some value → fields.check name value = .ok ()) ∧
    ∀ members, (∀ name, member? name members = value? name) → fields.ofMembers members = .ok x

variable {value? : String → Option Json}

theorem reads_pure (x : α) : (pure x : Fields α).Reads value? x :=
  ⟨fun _ _ _ ↦ rfl, fun _ _ ↦ rfl⟩

/-- Fields behind fields read what both read. -/
theorem Reads.seq {first : Fields (α → β)} {second : Fields α} {f : α → β} {x : α}
    (hfirst : first.Reads value? f) (hsecond : second.Reads value? x) :
    (first <*> second).Reads value? (f x) := by
  refine ⟨fun name value h ↦ ?_, fun members h ↦ ?_⟩
  · show (do first.check name value; second.check name value) = _
    rw [hfirst.1 name value h, hsecond.1 name value h]
    rfl
  · show (do let f ← first.ofMembers members; let x ← second.ofMembers members; return f x) = _
    rw [hfirst.2 members h, hsecond.2 members h]
    rfl

theorem Reads.map {fields : Fields α} {x : α} (f : α → β) (h : fields.Reads value? x) :
    (f <$> fields).Reads value? (f x) :=
  (reads_pure f).seq h

/-- A field reads as the value of its name does. -/
theorem reads_field {name : String} {decode : Decoder α} {absent short : Option α} {value : Json}
    {x : α} (hvalue : value? name = some value) (hdecode : decode value = .ok x) :
    (field name decode absent short).Reads value? x := by
  refine ⟨fun name' value' h ↦ ?_, fun members h ↦ ?_⟩
  · show (if name' = name then (decode value').map fun _ ↦ () else .ok ()) = _
    split
    · next heq =>
      rw [heq, hvalue, Option.some_inj] at h
      rw [← h, hdecode]
      rfl
    · rfl
  · simp only [field, h, hvalue]
    exact hdecode

theorem checkMembers_eq_ok {fields : Fields α}
    (h : ∀ member ∈ members, fields.check member.1 member.2 = .ok ()) :
    fields.checkMembers members = .ok () := by
  induction members with
  | nil => rfl
  | cons member rest ih =>
    rw [List.forall_mem_cons] at h
    show (do fields.check member.1 member.2; fields.checkMembers rest) = _
    rw [h.1, ih h.2]
    rfl

/-- One member that does not pass is enough to refuse them all. -/
theorem ofObject_error {fields : Fields α} {member : String × Json} (hmem : member ∈ members)
    (h : ∃ error, fields.check member.1 member.2 = .error error) :
    ∃ error, fields.ofObject members = .error error := by
  suffices ∃ error, fields.checkMembers members = .error error by
    obtain ⟨error, heq⟩ := this
    refine ⟨error, ?_⟩
    show (do fields.checkMembers members; fields.ofMembers members) = _
    rw [heq]
    rfl
  induction members with
  | nil => cases hmem
  | cons first rest ih =>
    show ∃ error, (do fields.check first.1 first.2; fields.checkMembers rest) = _
    rcases hfirst : fields.check first.1 first.2 with error' | _
    · exact ⟨error', rfl⟩
    · rcases List.mem_cons.1 hmem with rfl | hrest
      · obtain ⟨error, h⟩ := h
        rw [hfirst] at h
        cases h
      · exact ih hrest

/-- Members in any order read as their values do. -/
theorem Reads.ofObject {fields : Fields α} {x : α} (hnodup : (members.map Prod.fst).Nodup)
    (hperm : members'.Perm members) (h : fields.Reads (member? · members) x) :
    fields.ofObject members' = .ok x := by
  have hcheck : fields.checkMembers members' = .ok () := checkMembers_eq_ok fun member hmem ↦
    h.1 _ _ ((member?_eq_some_iff hnodup).2 (hperm.mem_iff.1 hmem))
  show (do fields.checkMembers members'; fields.ofMembers members') = _
  rw [hcheck, h.2 members' (member?_perm hperm hnodup)]
  rfl

/-- A record reads back from the object made of its members. -/
theorem struct_ofMembers {name : String} {fields : Fields α} {x : α}
    (hnodup : (members.map Prod.fst).Nodup) (h : fields.Reads (member? · members) x) :
    struct name fields (Json.ofMembers members) = .ok x := by
  obtain ⟨sorted, heq, hperm⟩ := ofMembers_eq_object hnodup
  rw [heq]
  exact h.ofObject hnodup hperm

end Fields

/-- A variant of a union is read from its members alone, in some order. -/
theorem tagged_withTag_eq {tag union name : String} {table : List (String × Fields α)}
    {fields : Fields α} (hfields : table.lookup name = some fields)
    (hnodup : (tag :: members.map Prod.fst).Nodup) :
    ∃ rest, rest.Perm members ∧
      tagged tag union table (withTag tag name members) = fields.ofObject rest := by
  have hnodup' : (((tag, Json.string name) :: members).map Prod.fst).Nodup := hnodup
  obtain ⟨sorted, heq, hperm⟩ := ofMembers_eq_object hnodup'
  have htag : member? tag sorted = some (.string name) := by
    rw [member?_perm hperm hnodup', member?, if_pos rfl]
  refine ⟨sorted.filter fun m ↦ m.1 != tag, (hperm.filter _).trans ?_, ?_⟩
  · rw [List.filter_cons_of_neg (by simp), List.filter_eq_self.2]
    intro member hmem
    rw [bne_iff_ne]
    rintro rfl
    exact (List.nodup_cons.1 hnodup).1 (List.mem_map_of_mem hmem)
  · have hdecode : decodeTag table (.string name) = .ok (name, fields) := by
      rw [decodeTag, variant?, hfields]
      rfl
    simp only [withTag, heq, tagged, htag, hdecode]
    rfl

/-- A variant of a union reads back from the object that has its name beside its members. -/
theorem tagged_withTag {tag union name : String} {table : List (String × Fields α)}
    {fields : Fields α} {x : α} (hfields : table.lookup name = some fields)
    (hnodup : (tag :: members.map Prod.fst).Nodup) (h : fields.Reads (member? · members) x) :
    tagged tag union table (withTag tag name members) = .ok x := by
  obtain ⟨rest, hperm, heq⟩ := tagged_withTag_eq hfields hnodup
  rw [heq]
  exact h.ofObject (List.nodup_cons.1 hnodup).2 hperm

/-- A variant of a union is refused for a member that does not pass. -/
theorem tagged_withTag_error {tag union name : String} {table : List (String × Fields α)}
    {fields : Fields α} {member : String × Json} (hfields : table.lookup name = some fields)
    (hnodup : (tag :: members.map Prod.fst).Nodup) (hmem : member ∈ members)
    (h : ∃ error, fields.check member.1 member.2 = .error error) :
    ∃ error, tagged tag union table (withTag tag name members) = .error error := by
  obtain ⟨rest, hperm, heq⟩ := tagged_withTag_eq hfields hnodup
  rw [heq]
  exact Fields.ofObject_error (hperm.mem_iff.2 hmem) h

/-! ### Items in order -/

namespace Fields

variable {items items' items'' : List Json}

/-- The items in front read as `x`, and the rest is left over. -/
def ReadsItems (fields : Fields α) (items : List Json) (x : α) (rest : List Json) : Prop :=
  ∀ shortage position, fields.ofItems shortage position items = .ok (x, rest)

theorem readsItems_pure (x : α) : (pure x : Fields α).ReadsItems items x items :=
  fun _ _ ↦ rfl

/-- Fields behind fields take the items that the first ones left. -/
theorem ReadsItems.seq {first : Fields (α → β)} {second : Fields α} {f : α → β} {x : α}
    (hfirst : first.ReadsItems items f items') (hsecond : second.ReadsItems items' x items'') :
    (first <*> second).ReadsItems items (f x) items'' := by
  intro shortage position
  show Except.bind (first.ofItems shortage position items) _ = _
  rw [hfirst]
  show Except.bind (second.ofItems shortage (position + first.count) items') _ = _
  rw [hsecond]
  rfl

theorem ReadsItems.ofArray {fields : Fields α} {name : String} {x : α}
    (h : fields.ReadsItems items x []) : fields.ofArray name items = .ok x := by
  rw [Fields.ofArray, h]
  rfl

/-! ### What is read -/

/-- Whatever the fields read has a property. -/
structure Gives (fields : Fields α) (p : α → Prop) : Prop where
  ofMembers : ∀ {members x}, fields.ofMembers members = .ok x → p x
  ofItems : ∀ {shortage position items x rest},
    fields.ofItems shortage position items = .ok (x, rest) → p x

theorem gives_pure {p : α → Prop} {x : α} (h : p x) : (pure x : Fields α).Gives p where
  ofMembers heq := by
    cases heq
    exact h
  ofItems heq := by
    cases heq
    exact h

theorem gives_any (fields : Fields α) : fields.Gives fun _ ↦ True :=
  ⟨fun _ ↦ trivial, fun _ ↦ trivial⟩

/-- What is read of fields behind fields has what both give. -/
theorem Gives.seq {p : α → Prop} {q : β → Prop} {first : Fields (α → β)} {second : Fields α}
    (hfirst : first.Gives fun f ↦ ∀ x, p x → q (f x)) (hsecond : second.Gives p) :
    (first <*> second).Gives q where
  ofMembers heq := by
    obtain ⟨f, hf, heq⟩ := bind_eq_ok.1 heq
    obtain ⟨x, hx, heq⟩ := bind_eq_ok.1 heq
    cases heq
    exact hfirst.ofMembers hf x (hsecond.ofMembers hx)
  ofItems heq := by
    obtain ⟨⟨f, items⟩, hf, heq⟩ := bind_eq_ok.1 heq
    obtain ⟨⟨x, rest⟩, hx, heq⟩ := bind_eq_ok.1 heq
    cases heq
    exact hfirst.ofItems hf x (hsecond.ofItems hx)

/-- A field that must be there gives what its decoder does. -/
theorem gives_required {name : String} {decode : Decoder α} {p : α → Prop}
    (h : ∀ value x, decode value = .ok x → p x) : (required name decode).Gives p where
  ofMembers {members x} heq := by
    rw [required, field] at heq
    rcases hmember : member? name members with _ | value <;> simp only [hmember] at heq
    · cases heq
    · exact h _ _ heq
  ofItems {shortage position items x rest} heq := by
    rw [required, field] at heq
    cases items with
    | nil => cases heq
    | cons item rest' =>
      rcases hitem : decode item with error | y <;> simp only [hitem, Except.map] at heq <;>
        cases heq
      exact h _ _ hitem

theorem Gives.ofObject {fields : Fields α} {p : α → Prop} (h : fields.Gives p)
    {members : List (String × Json)} {x : α} (heq : fields.ofObject members = .ok x) : p x := by
  obtain ⟨-, -, hmembers⟩ := bind_eq_ok.1 heq
  exact h.ofMembers hmembers

/-- Items of which none is left over have the property too, whatever is said of the others. -/
theorem Gives.of_items {fields : Fields α} {p : α → Prop} (h : fields.Gives p) {shortage : String}
    {error : DecodeError} {x : α}
    (heq : (do
      let (x, left) ← fields.ofItems shortage 0 items
      if left.isEmpty then return x else throw error) = .ok x) : p x := by
  obtain ⟨⟨y, left⟩, hitems, heq⟩ := bind_eq_ok.1 heq
  dsimp only at heq
  split at heq <;> cases heq
  exact h.ofItems hitems

/-- What is read of a record has the property, whether it came as an object or as an array. -/
theorem Gives.of_struct_eq_ok {fields : Fields α} {p : α → Prop} (h : fields.Gives p)
    {name : String} {value : Json} {x : α} (heq : struct name fields value = .ok x) : p x := by
  cases value with
  | object members => exact h.ofObject heq
  | array items => exact h.of_items heq
  | _ => cases heq

end Fields

/-- What is read by a tag is one of the variants. -/
theorem gives_of_decodeTag {table : List (String × Fields α)} {p : α → Prop}
    (h : ∀ entry ∈ table, entry.2.Gives p) {value : Json} {entry : String × Fields α}
    (heq : decodeTag table value = .ok entry) : entry.2.Gives p := by
  cases value with
  | string name =>
    rw [decodeTag, variant?] at heq
    rcases hlookup : table.lookup name with _ | fields <;> rw [hlookup] at heq <;> cases heq
    obtain ⟨before, after, rfl, -⟩ := List.lookup_eq_some_iff.1 hlookup
    exact h _ (List.mem_append_right _ List.mem_cons_self)
  | _ => cases heq

/-- A union whose variant is named inside gives what one of its variants does. -/
theorem of_tagged_eq_ok {tag union : String} {table : List (String × Fields α)} {p : α → Prop}
    (h : ∀ entry ∈ table, entry.2.Gives p) {value : Json} {x : α}
    (heq : tagged tag union table value = .ok x) : p x := by
  cases value with
  | object members =>
    rw [tagged] at heq
    rcases hmember : member? tag members with _ | name <;> simp only [hmember] at heq
    · cases heq
    · obtain ⟨entry, hentry, hfields⟩ := bind_eq_ok.1 heq
      exact (gives_of_decodeTag h hentry).ofObject hfields
  | array items =>
    cases items with
    | nil => cases heq
    | cons name rest =>
      obtain ⟨entry, hentry, hfields⟩ := bind_eq_ok.1 heq
      exact (gives_of_decodeTag h hentry).of_items hfields
  | _ => cases heq

end ChainProjection.Json
