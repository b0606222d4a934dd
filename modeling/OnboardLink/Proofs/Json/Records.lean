import OnboardLink.Proofs.Json.Reading
import OnboardLink.Proofs.Json.Skipping

/-! Records in both notations. What is known of a record at any time depends on the names read so far
and on nothing else: not on what members of other names hold, nor on how anything is written. -/
namespace OnboardLink.Json

/-- A field of a record: its name, and the texts of what a record holds there. -/
structure Form (α : Type) where
  name : String
  Text : α → List Char → Prop

/-- The names among others that are of fields. -/
def known {α : Type} (forms : List (Form α)) (names : List String) : List String :=
  names.filter (· ∈ forms.map Form.name)

/-- What a record has a member of some name hold. Nothing is asked of members whose names are not of
fields, but that they hold JSON. -/
inductive Holds {α : Type} (forms : List (Form α)) (record : α) : String → List Char → Prop where
  | known {form : Form α} {value : List Char} (hf : form ∈ forms) (ht : form.Text record value) :
      Holds forms record form.name value
  | unknown {name : String} {value : List Char} (hn : name ∉ forms.map Form.name)
      (hv : ValueText value) : Holds forms record name value

/-- A member has a name, however it is written, and holds what a record has it hold. -/
structure Gives {α : Type} (forms : List (Form α)) (record : α) (name : String) (member : Member) :
    Prop where
  spelled : StringText name member.name
  holds : Holds forms record name member.value

/-- The texts of objects whose members have some names, in their order. -/
def ObjectText {α : Type} (forms : List (Form α)) (record : α) (names : List String)
    (text : List Char) : Prop :=
  ∃ members, List.Forall₂ (Gives forms record) names members ∧
    Enclosed '\x7b' '\x7d' (members.map Member.chars) text

/-- A field is read as its form says, into what is known of a record so far. -/
structure Form.Fits {α δ : Type} (draft : α → List String → δ) (form : Form α) (field : Field δ) :
    Prop where
  name : field.name = form.name
  reads : ∀ {record text}, form.Text record text → ∀ current, ∃ next,
    Reads (field.read current) next text ∧
      ∀ names, current = draft record names → next = draft record (names ++ [form.name])

/-- The fields of a shape are read as their forms say, each under a name of its own. Names of no field
say nothing of a record. -/
structure Shape.Fits {α δ : Type} (shape : Shape δ α) (forms : List (Form α))
    (draft : α → List String → δ) : Prop where
  start : ∀ record, draft record [] = shape.start
  fields : List.Forall₂ (Form.Fits draft) forms shape.fields
  distinct : (forms.map Form.name).Nodup
  unknown : ∀ record names {name}, name ∉ forms.map Form.name →
    draft record (names ++ [name]) = draft record names

variable {α δ : Type} {forms : List (Form α)} {draft : α → List String → δ}

private theorem known_of_mem {name : String} (h : name ∈ forms.map Form.name) :
    known forms [name] = [name] :=
  List.filter_eq_self.mpr fun _ hm => decide_eq_true (List.mem_singleton.mp hm ▸ h)

private theorem known_of_not_mem {name : String} (h : name ∉ forms.map Form.name) :
    known forms [name] = [] :=
  List.filter_eq_nil_iff.mpr fun _ hm => mt of_decide_eq_true (List.mem_singleton.mp hm ▸ h)

private theorem known_cons (forms : List (Form α)) (name : String) (names : List String) :
    known forms (name :: names) = known forms [name] ++ known forms names :=
  List.filter_append [name] names

/-- A field whose value is kept fits its form. -/
theorem Form.fits_of {β : Type} {reader : Reader β} {store : δ → β → δ} {get : α → β}
    {Text : β → List Char → Prop} (name : String)
    (hr : ∀ {value text}, Text value text → Reads reader value text)
    (hs : ∀ record names, store (draft record names) (get record) = draft record (names ++ [name])) :
    Form.Fits draft ⟨name, fun record => Text (get record)⟩ (.of name reader store) where
  name := rfl
  reads {record text} ht current := by
    have hv := hr ht
    refine ⟨store current (get record), ⟨hv.solid, fun gap rest he => ?_⟩, ?_⟩
    · change Except.map _ (reader _) = _
      rw [hv.eq gap he]
      rfl
    · rintro names rfl
      exact hs record names

section Fields

variable {fields : List (Field δ)} {name : String}

private theorem find?_form (hf : List.Forall₂ (Form.Fits draft) forms fields)
    (hd : (forms.map Form.name).Nodup) {form : Form α} (hm : form ∈ forms) :
    ∃ field, fields.find? (·.name == form.name) = some field ∧ form.Fits draft field := by
  induction hf with
  | nil => cases hm
  | @cons other field forms fields ho _ ih =>
    obtain ⟨hn, hd⟩ := List.nodup_cons.mp hd
    rcases List.mem_cons.mp hm with rfl | hm
    · exact ⟨field, List.find?_cons_of_pos (beq_iff_eq.mpr ho.name), ho⟩
    · obtain ⟨found, hs, hf⟩ := ih hd hm
      have hne : (field.name == form.name) = false := by
        rw [beq_eq_false_iff_ne, ho.name]
        intro he
        exact hn (he ▸ List.mem_map_of_mem hm)
      refine ⟨found, ?_, hf⟩
      rw [List.find?_cons, hne]
      exact hs

private theorem find?_eq_none (hf : List.Forall₂ (Form.Fits draft) forms fields)
    (hn : name ∉ forms.map Form.name) : fields.find? (·.name == name) = none := by
  induction hf with
  | nil => rfl
  | @cons form field forms fields ho _ ih =>
    obtain ⟨hne, hn⟩ := not_or.mp (mt List.mem_cons.mpr hn)
    have hb : (field.name == name) = false := by
      rw [beq_eq_false_iff_ne, ho.name]
      exact Ne.symm hne
    rw [List.find?_cons, hb]
    exact ih hn

end Fields

section Members

variable {fields : List (Field δ)} {first : Bool} {lead : List Char} {member : Member} {name : String}
  {seen : List String} {current : δ}

private theorem nextMember_part (hl : Lead first lead) (body : List Char) :
    nextMember first (lead ++ '"' :: body) = .ok (.inl body) := by
  cases hl with
  | first gap =>
    rw [nextMember, skipBlanks_gap]
    rfl
  | further front back =>
    have hb : skipBlanks (back.val ++ '"' :: body) = '"' :: body := by
      rw [skipBlanks_gap]
      rfl
    rw [nextMember, List.append_assoc, skipBlanks_gap, List.cons_append, skipBlanks_cons rfl]
    split
    · rename_i h
      cases h
    · rename_i h
      cases h
    · rename_i h
      cases h
      rw [if_neg Bool.false_ne_true, if_pos rfl, hb]
      rfl

private theorem nextMember_close (first : Bool) (gap : Blanks) (rest : List Char) :
    nextMember first (gap.val ++ '\x7d' :: rest) = .ok (.inr rest) := by
  rw [nextMember, skipBlanks_gap]
  rfl

private theorem skipColon_gap (gap : Blanks) (rest : List Char) :
    skipColon (gap.val ++ ':' :: rest) = .ok rest := by
  rw [skipColon, skipBlanks_gap]
  rfl

/-- Reading a member begins with its name, however it is written. -/
theorem readMembers_name (hl : Lead first lead) (hn : StringText name member.name) (c : Char)
    (bound rest : List Char) :
    readMembers fields (c :: bound) seen first current (lead ++ (member.chars ++ rest)) =
      (match fields.find? (·.name == name) with
      | none => do
        readMembers fields bound seen false current
          (← skipValue (member.behind.val ++ (member.value ++ rest)))
      | some field =>
        if seen.contains name then .error .mismatched
        else do
          let (current, rest) ← field.read current (member.behind.val ++ (member.value ++ rest))
          readMembers fields bound (name :: seen) false current rest) := by
  have hm : member.chars ++ rest = '"' :: (member.name ++ '"' ::
      (member.before.val ++ ':' :: (member.behind.val ++ (member.value ++ rest)))) := by
    simp only [Member.chars, List.cons_append, List.append_assoc]
  rw [hm, readMembers]
  simp only [nextMember_part hl, bind, Except.bind, readString_append hn]
  cases fields.find? (·.name == name) with
  | none => simp only [skipColon_gap]
  | some field =>
    dsimp only
    split
    · rfl
    · simp only [skipColon_gap]

variable {shape : Shape δ α} {record : α} {rest bound text : List Char}

/-- A member is read into what is known of its record, if its name is that of a field, and passed over
if not. -/
theorem readMembers_gives (hf : shape.Fits forms draft) (hl : Lead first lead)
    (hm : Gives forms record name member) (hs : name ∈ forms.map Form.name → name ∉ seen)
    (he : Ends rest) (c : Char) (bound : List Char) (current : δ) :
    ∃ next, readMembers shape.fields (c :: bound) seen first current (lead ++ (member.chars ++ rest)) =
        readMembers shape.fields bound (known forms [name] ++ seen) false next rest ∧
      ∀ names, current = draft record names → next = draft record (names ++ [name]) := by
  rw [readMembers_name hl hm.spelled]
  cases hm.holds with
  | @known form _ hf' ht =>
    obtain ⟨field, hn, hr⟩ := find?_form hf.fields hf.distinct hf'
    obtain ⟨next, hv, hd⟩ := hr.reads ht current
    have hk : form.name ∈ forms.map Form.name := List.mem_map_of_mem hf'
    have hc : ¬ seen.contains form.name = true := mt List.contains_iff_mem.mp (hs hk)
    refine ⟨next, ?_, hd⟩
    rw [hn, known_of_mem hk]
    simp only [if_neg hc, hv.eq member.behind he, bind, Except.bind]
    rfl
  | unknown hn hv =>
    refine ⟨current, ?_, ?_⟩
    · rw [find?_eq_none hf.fields hn, known_of_not_mem hn]
      simp only [skipValue_append hv member.behind he, bind, Except.bind]
      rfl
    · rintro names rfl
      exact (hf.unknown record names hn).symm

/-- A field comes once. -/
theorem readMembers_seen (hf : shape.Fits forms draft) (hl : Lead first lead)
    (hn : StringText name member.name) (hk : name ∈ forms.map Form.name) (hs : name ∈ seen) (c : Char)
    (bound rest : List Char) (current : δ) :
    readMembers shape.fields (c :: bound) seen first current (lead ++ (member.chars ++ rest)) =
      .error .mismatched := by
  obtain ⟨form, hm, rfl⟩ := List.mem_map.mp hk
  obtain ⟨field, hd, -⟩ := find?_form hf.fields hf.distinct hm
  rw [readMembers_name hl hn, hd]
  exact if_pos (List.contains_iff_mem.mpr hs)

variable {names : List String} {members : List Member}

/-- Members are read in order, up to the end of their object. -/
theorem readMembers_inside (hf : shape.Fits forms draft)
    (ht : Inside '\x7d' first (members.map Member.chars) text)
    (hm : List.Forall₂ (Gives forms record) names members) (hd : (known forms names).Nodup)
    (hs : ∀ name ∈ known forms names, name ∉ seen) (hb : members.length < bound.length)
    (before : List String) (rest : List Char) :
    readMembers shape.fields bound seen first (draft record before) (text ++ rest) =
      .ok (draft record (before ++ names), rest) := by
  induction hm generalizing first text seen bound before with
  | nil =>
    obtain ⟨c, bound, rfl⟩ := List.exists_cons_of_length_pos hb
    cases ht with
    | close gap =>
      rw [List.append_assoc, List.singleton_append, readMembers, nextMember_close, List.append_nil]
      rfl
  | @cons name member names members hg _ ih =>
    obtain ⟨c, bound, rfl⟩ := List.exists_cons_of_length_pos (Nat.zero_lt_of_lt hb)
    rw [known_cons] at hd hs
    obtain ⟨-, hd, ho⟩ := List.nodup_append.mp hd
    cases ht with
    | part hl ht =>
      have hk : name ∈ forms.map Form.name → name ∉ seen := by
        intro hk
        refine hs name (List.mem_append_left _ ?_)
        rw [known_of_mem hk]
        exact List.mem_singleton_self name
      obtain ⟨next, hr, hn⟩ :=
        readMembers_gives hf hl hg hk (ht.ends (.inr rfl) rest) c bound (draft record before)
      obtain rfl := hn before rfl
      rw [List.append_assoc, List.append_assoc, hr,
        ih ht hd ?_ (Nat.lt_of_succ_lt_succ hb), List.append_assoc]
      · rfl
      · intro other hm hc
        rcases List.mem_append.mp hc with hc | hc
        · exact ho other hc other hm rfl
        · exact hs other (List.mem_append_right _ hm) hc

/-- Behind members that are read, a name of a field that was among them is refused at once, whatever
comes behind it. -/
theorem readMembers_again (hf : shape.Fits forms draft) {front back : List Member} {again : Member}
    (ht : Inside '\x7d' first ((front ++ again :: back).map Member.chars) text)
    (hm : List.Forall₂ (fun name member => ∃ record, Gives forms record name member) names front)
    (ha : StringText name again.name) (hk : name ∈ forms.map Form.name)
    (hs : name ∈ names ∨ name ∈ seen) (hb : front.length < bound.length) (current : δ)
    (rest : List Char) :
    readMembers shape.fields bound seen first current (text ++ rest) = .error .mismatched := by
  induction hm generalizing first text seen bound current with
  | nil =>
    obtain ⟨c, bound, rfl⟩ := List.exists_cons_of_length_pos hb
    cases ht with
    | part hl ht =>
      rw [List.append_assoc, List.append_assoc]
      exact readMembers_seen hf hl ha hk (hs.resolve_left List.not_mem_nil) c bound _ current
  | @cons other member names front hg _ ih =>
    obtain ⟨c, bound, rfl⟩ := List.exists_cons_of_length_pos (Nat.zero_lt_of_lt hb)
    obtain ⟨record, hg⟩ := hg
    cases ht with
    | part hl ht =>
      rw [List.append_assoc, List.append_assoc]
      by_cases ho : other ∈ forms.map Form.name ∧ other ∈ seen
      -- A field may come again in front already, and is refused there.
      · exact readMembers_seen hf hl hg.spelled ho.1 ho.2 c bound _ current
      · obtain ⟨next, hr, -⟩ := readMembers_gives hf hl hg (fun hk hc => ho ⟨hk, hc⟩)
          (ht.ends (.inr rfl) rest) c bound current
        rw [hr]
        refine ih ht ?_ (Nat.lt_of_succ_lt_succ hb) next
        rcases hs with hs | hs
        · rcases List.mem_cons.mp hs with rfl | hs
          · refine .inr (List.mem_append_left _ ?_)
            rw [known_of_mem hk]
            exact List.mem_singleton_self name
          · exact .inl hs
        · exact .inr (List.mem_append_right _ hs)

end Members

section Positions

variable {fields : List (Field δ)} {first : Bool} {record : α} {number : ℕ}
  {elements : List (List Char)} {text : List Char}

/-- Elements are read into fields in order, as many as there are. -/
theorem readPositions_inside (hf : List.Forall₂ (Form.Fits draft) forms fields)
    (ht : Inside ']' first elements text)
    (he : List.Forall₂ (fun form => form.Text record) (forms.take number) elements)
    (before : List String) (rest : List Char) :
    ∃ gap : Blanks, readPositions fields first (draft record before) (text ++ rest) =
      .ok (draft record (before ++ (forms.take number).map Form.name), gap.val ++ ']' :: rest) := by
  induction hf generalizing first text elements number before with
  | nil =>
    rw [List.take_nil] at he ⊢
    cases he
    cases ht with
    | close gap =>
      refine ⟨gap, ?_⟩
      rw [List.append_assoc, List.singleton_append, List.map_nil, List.append_nil]
      rfl
  | @cons form field forms fields hg _ ih =>
    cases number with
    | zero =>
      cases he
      cases ht with
      | close gap =>
        refine ⟨gap, ?_⟩
        rw [List.append_assoc, List.singleton_append, readPositions, nextElement_close,
          List.take_zero, List.map_nil, List.append_nil]
        rfl
    | succ number =>
      rw [List.take_succ_cons] at he ⊢
      cases he with
      | cons hv he =>
        cases ht with
        | part hl ht =>
          obtain ⟨next, hr, hd⟩ := hg.reads hv (draft record before)
          obtain rfl := hd before rfl
          obtain ⟨gap, hg⟩ := ih ht he (before ++ [form.name])
          have hv := hr.eq .none (ht.ends (.inl rfl) rest)
          change field.read _ (_ ++ (_ ++ rest)) = _ at hv
          refine ⟨gap, ?_⟩
          rw [List.append_assoc] at hg
          rw [List.append_assoc, List.append_assoc, readPositions]
          simp only [nextElement_part hl hr.solid, bind, Except.bind, hv]
          exact hg

end Positions

namespace Shape.Fits

variable {shape : Shape δ α} {record result : α} {names : List String} {number : ℕ}
  {text : List Char}

/-- An object is read as the record of which it gives the fields. -/
theorem reads_object (hf : shape.Fits forms draft) (ho : ObjectText forms record names text)
    (hd : (known forms names).Nodup) (hr : shape.finish (draft record names) = some result) :
    Reads shape.read result text := by
  obtain ⟨members, hm, ht⟩ := ho
  refine ⟨ht.solid (.inr rfl), fun gap rest _ => ?_⟩
  cases ht with
  | @mk inner hi =>
    have hb : members.length < (inner ++ rest).length := by
      rw [List.length_append]
      exact Nat.lt_add_right _ hi.length_members_lt
    have hn := readMembers_inside hf hi hm hd (fun _ _ => List.not_mem_nil) hb [] rest
    rw [hf.start, List.nil_append] at hn
    rw [Shape.read, skipBlanks_gap, List.cons_append, skipBlanks_cons rfl]
    simp only [hn, bind, Except.bind, hr]
    rfl

/-- A list is read as the record of which it gives the first fields. -/
theorem reads_list (hf : shape.Fits forms draft)
    (hl : ListText (fun form => form.Text record) (forms.take number) text)
    (hr : shape.finish (draft record ((forms.take number).map Form.name)) = some result) :
    Reads shape.read result text := by
  obtain ⟨elements, he, ht⟩ := hl
  refine ⟨ht.solid (.inl rfl), fun gap rest _ => ?_⟩
  cases ht with
  | @mk inner hi =>
    obtain ⟨back, hn⟩ := readPositions_inside hf.fields hi he [] rest
    rw [hf.start, List.nil_append] at hn
    rw [Shape.read, skipBlanks_gap, List.cons_append, skipBlanks_cons rfl]
    simp only [hn, bind, Except.bind, hr, endList_close]
    rfl

/-- An object that gives a field a second time is refused. -/
theorem read_again (hf : shape.Fits forms draft) {front back : List Member} {again : Member}
    {name : String} (hm : List.Forall₂ (fun name member => ∃ record, Gives forms record name member)
      names front) (ha : StringText name again.name) (hk : name ∈ forms.map Form.name)
    (hs : name ∈ names)
    (ht : Enclosed '\x7b' '\x7d' ((front ++ again :: back).map Member.chars) text) (gap : Blanks)
    (rest : List Char) : shape.read (gap.val ++ (text ++ rest)) = .error .mismatched := by
  cases ht with
  | @mk inner hi =>
    have hl := hi.length_members_lt
    have hb : front.length < (inner ++ rest).length := by
      rw [List.length_append] at hl ⊢
      omega
    rw [Shape.read, skipBlanks_gap, List.cons_append, skipBlanks_cons rfl]
    simp only [readMembers_again hf hi hm ha hk (.inl hs) hb, bind, Except.bind]

end Shape.Fits

/-- What a text is read as depends on the fields that it gives: it is what is left of a record when it
has only those. A field that is given again is of the wrong shape. -/
structure ReadByFields {α : Type} (ofText : String → Except Fault α) (forms : List (Form α))
    (only : α → List String → α) : Prop where
  /-- Objects may give their members in any order, and members of other names among them. -/
  object : ∀ {record names text}, Padded (ObjectText forms record names) text →
    (known forms names).Nodup → ofText text = .ok (only record names)
  /-- Lists give the first fields. -/
  list : ∀ {record} {number : ℕ} {text},
    Padded (ListText (fun form => form.Text record) (forms.take number)) text →
    ofText text = .ok (only record ((forms.take number).map Form.name))
  /-- Members in front of the one that comes again hold what is asked of them, each for a record of its
  own. Nothing is asked of those behind. -/
  again : ∀ {front again back names name text},
    Padded (Enclosed '\x7b' '\x7d' ((front ++ again :: back).map Member.chars)) text →
    List.Forall₂ (fun name member => ∃ record, Gives forms record name member) names front →
    StringText name again.name → name ∈ forms.map Form.name → name ∈ names →
    ofText text = .error .mismatched

/-- Records whose every field has a default are read by the fields given. -/
theorem Shape.Fits.readByFields {default : α} {fields : List (Field α)}
    {only : α → List String → α} (hf : (Shape.withDefaults default fields).Fits forms only) :
    ReadByFields (readWhole (Shape.withDefaults default fields).read) forms only where
  object ht hd := readWhole_padded ht fun ho => hf.reads_object ho hd rfl
  list ht := readWhole_padded ht fun hl => hf.reads_list hl rfl
  again {front again back names name text} ht hm ha hk hs := by
    obtain ⟨gap, after, inner, hi, ht⟩ := ht
    rw [readWhole, ht]
    simp only [hf.read_again hm ha hk hs hi, bind, Except.bind]

end OnboardLink.Json
