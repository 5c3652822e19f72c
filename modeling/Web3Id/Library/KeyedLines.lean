import Mathlib.Data.List.Forall2
import Mathlib.Data.List.Infix

namespace Web3Id.Library.KeyedLines

variable {Symbol : Type*} {mark : Symbol}

/-- No mark of the text has the key right after it. -/
def Free (mark : Symbol) (key text : List Symbol) : Prop := ¬ mark :: key <:+: text

/-- The text ends here, or goes on with a mark and one of the keys. -/
def Begins (mark : Symbol) (keys : List (List Symbol)) (text : List Symbol) : Prop :=
  text = [] ∨ ∃ key ∈ keys, mark :: key <+: text

/-- Neither of the two keys begins with the other. -/
def Apart (key other : List Symbol) : Prop := ¬ key <+: other ∧ ¬ other <+: key

instance [DecidableEq Symbol] (mark : Symbol) (key text : List Symbol) :
    Decidable (Free mark key text) := inferInstanceAs (Decidable (¬ _))

instance [DecidableEq Symbol] (key other : List Symbol) : Decidable (Apart key other) :=
  inferInstanceAs (Decidable (_ ∧ _))

section Texts

variable {key text other rest before after : List Symbol} {keys : List (List Symbol)}

/-- Two keys that begin one text are not apart. -/
theorem Apart.not_both (apart : Apart key other) (one : key <+: text) (two : other <+: text) :
    False :=
  (List.prefix_or_prefix_of_prefix one two).elim apart.1 apart.2

/-- A text without marks is free of every key. -/
theorem Free.of_unmarked (unmarked : mark ∉ text) (key : List Symbol) : Free mark key text :=
  fun inside => unmarked (inside.subset List.mem_cons_self)

/-- A text does not begin with a key that is apart from all keys it may begin with. -/
theorem Begins.not_apart (apart : ∀ other ∈ keys, Apart key other) :
    ¬ Begins mark keys (mark :: (key ++ text)) := by
  intro begins
  rcases begins with empty | ⟨other, listed, after, same⟩
  · cases empty
  · exact (apart other listed).not_both (List.prefix_append key text)
      ((List.cons_eq_cons.mp same).2 ▸ List.prefix_append other after)

theorem Begins.marked (begins : Begins mark keys text) :
    text = [] ∨ ∃ tail, text = mark :: tail := by
  rcases begins with empty | ⟨key, -, tail, rfl⟩
  · exact .inl empty
  · exact .inr ⟨key ++ tail, rfl⟩

/-- A key that follows a mark lies behind a text that is free of it. -/
theorem Free.behind (free : Free mark key text) (unmarked : mark ∉ key)
    (marked : rest = [] ∨ ∃ tail, rest = mark :: tail)
    (same : before ++ mark :: (key ++ after) = text ++ rest) :
    ∃ between, before = text ++ between ∧ between ++ mark :: (key ++ after) = rest := by
  rcases List.append_eq_append_iff.mp same with ⟨between, rfl, tail⟩ | ⟨between, rfl, tail⟩
  · cases between with
    | nil => exact ⟨[], by simp, tail⟩
    | cons symbol between =>
        obtain ⟨rfl, inner⟩ := List.cons_eq_cons.mp tail
        -- the key cannot reach across the end of the text, since the rest begins with a mark
        rcases List.append_eq_append_iff.mp inner with ⟨more, rfl, -⟩ | ⟨more, inside, back⟩
        · exact absurd ⟨before, more, by simp⟩ free
        · cases more with
          | nil =>
              rw [List.append_nil] at inside
              exact absurd ⟨before, [], by simp [inside]⟩ free
          | cons first more =>
              rcases marked with rfl | ⟨tail, rfl⟩
              · nomatch back
              · obtain ⟨rfl, -⟩ := List.cons.inj back
                exact absurd (by simp [inside]) unmarked
  · exact ⟨between, rfl, tail.symm⟩

/-- A key without marks before a free text is free. -/
theorem Free.append (free : Free mark key text) (unmarked : mark ∉ other) :
    Free mark key (other ++ text) := by
  rintro ⟨before, after, same⟩
  rw [List.append_assoc] at same
  rcases List.append_eq_append_iff.mp same with ⟨between, rfl, tail⟩ | ⟨between, rfl, tail⟩
  · cases between with
    | nil => exact free ⟨[], after, tail⟩
    | cons symbol between =>
        obtain ⟨rfl, -⟩ := List.cons_eq_cons.mp tail
        exact unmarked (by simp)
  · exact free ⟨between, after, by simp [tail]⟩

/-- A text that is free of the keys ends where one of them begins. -/
theorem Free.split {others : List Symbol} (unmarked : ∀ key ∈ keys, mark ∉ key)
    (free : ∀ key ∈ keys, Free mark key text) (too : ∀ key ∈ keys, Free mark key other)
    (begins : Begins mark keys rest) (also : Begins mark keys others)
    (same : text ++ rest = other ++ others) : text = other ∧ rest = others := by
  have longer : ∀ {text other rest others : List Symbol},
      (∀ key ∈ keys, Free mark key text) → Begins mark keys rest → Begins mark keys others →
      text ++ rest = other ++ others → others ≠ [] → ∃ between, other = text ++ between := by
    intro text other rest others free begins also same nonempty
    rcases also with empty | ⟨key, listed, after, rfl⟩
    · exact absurd empty nonempty
    · obtain ⟨between, split, -⟩ := (free key listed).behind (unmarked key listed) begins.marked
        (by rw [← List.cons_append]; exact same.symm)
      exact ⟨between, split⟩
  by_cases empty : rest = []
  · by_cases nothing : others = []
    · subst empty nothing
      simpa using same
    · obtain ⟨between, rfl⟩ := longer free begins also same nothing
      have short := congrArg List.length same
      have positive := List.length_pos_iff.mpr nothing
      simp only [empty, List.append_nil, List.length_append] at short
      omega
  · obtain ⟨between, rfl⟩ := longer too also begins same.symm empty
    by_cases nothing : others = []
    · have short := congrArg List.length same
      have positive := List.length_pos_iff.mpr empty
      simp only [nothing, List.append_nil, List.length_append] at short
      omega
    · obtain ⟨again, split⟩ := longer free begins also same nothing
      have none_ : between = [] := by
        have short := congrArg List.length split
        simp only [List.length_append] at short
        exact List.length_eq_zero_iff.mp (by omega)
      subst none_
      simpa using same

end Texts

/-- A field is a key with a value that is there always or only at times. -/
inductive KeyedField (Symbol : Type*) where
  | required (key value : List Symbol)
  | optional (key : List Symbol) (value : Option (List Symbol))

namespace KeyedField

def key : KeyedField Symbol → List Symbol
  | .required key _ => key
  | .optional key _ => key

def value : KeyedField Symbol → Option (List Symbol)
  | .required _ value => some value
  | .optional _ value => value

/-- Two fields that differ only in their values have the same shape. -/
inductive SameShape : KeyedField Symbol → KeyedField Symbol → Prop
  | required (key value other : List Symbol) : SameShape (.required key value) (.required key other)
  | optional (key : List Symbol) (value other : Option (List Symbol)) :
      SameShape (.optional key value) (.optional key other)

end KeyedField

/-- Every field with a value is a mark, its key, and its value. -/
def encode (mark : Symbol) : List (KeyedField Symbol) → List Symbol
  | [] => []
  | field :: fields =>
      match field.value with
      | none => encode mark fields
      | some value => mark :: (field.key ++ (value ++ encode mark fields))

/-- The keys of the fields that can come first. -/
def nextKeys : List (KeyedField Symbol) → List (List Symbol)
  | [] => []
  | .required key _ :: _ => [key]
  | .optional key _ :: fields => key :: nextKeys fields

/-- No key has a mark, an absent field cannot be mistaken for a later one, and no value for the
field after it. -/
def Readable (mark : Symbol) : List (KeyedField Symbol) → Prop
  | [] => True
  | field :: fields =>
      mark ∉ field.key ∧ (∀ other ∈ nextKeys fields, Apart field.key other) ∧
        (∀ value ∈ field.value, ∀ other ∈ nextKeys fields, Free mark other value) ∧
        Readable mark fields

variable {fields others : List (KeyedField Symbol)}

theorem encode_append (fields others : List (KeyedField Symbol)) :
    encode mark (fields ++ others) = encode mark fields ++ encode mark others := by
  induction fields with
  | nil => rfl
  | cons field fields ih => cases found : field.value <;> simp [encode, found, ih]

theorem encode_begins (fields : List (KeyedField Symbol)) :
    Begins mark (nextKeys fields) (encode mark fields) := by
  induction fields with
  | nil => exact .inl rfl
  | cons field fields ih =>
      cases field with
      | required key value => exact .inr ⟨key, List.mem_singleton_self key, _, rfl⟩
      | optional key value =>
          cases value with
          | some value => exact .inr ⟨key, List.mem_cons_self, _, rfl⟩
          | none =>
              rcases ih with empty | ⟨other, listed, begins⟩
              · exact .inl empty
              · exact .inr ⟨other, List.mem_cons_of_mem _ listed, begins⟩

/-- Fields of the same shape have the same keys. -/
theorem nextKeys_shape (shape : List.Forall₂ KeyedField.SameShape fields others) :
    nextKeys fields = nextKeys others := by
  induction shape with
  | nil => rfl
  | cons head tail ih =>
      cases head with
      | required key value other => rfl
      | optional key value other => exact congrArg (key :: ·) ih

/-- The keys of readable fields have no marks. -/
theorem Readable.unmarked (readable : Readable mark fields) :
    ∀ key ∈ nextKeys fields, mark ∉ key := by
  induction fields with
  | nil => simp [nextKeys]
  | cons field fields ih =>
      cases field with
      | required key value => simpa [nextKeys, KeyedField.key] using readable.1
      | optional key value =>
          exact List.forall_mem_cons.mpr ⟨readable.1, ih readable.2.2.2⟩

/-- Readable fields of one shape with the same encoding have the same values. -/
theorem encode_injective (shape : List.Forall₂ KeyedField.SameShape fields others)
    (readable : Readable mark fields) (too : Readable mark others)
    (same : encode mark fields = encode mark others) : fields = others := by
  induction shape with
  | nil => rfl
  | @cons first second fields others head tail ih =>
      obtain ⟨-, apart, free, rest⟩ := readable
      obtain ⟨-, -, freeToo, restToo⟩ := too
      have keys := nextKeys_shape tail
      have begins : Begins mark _ (encode mark others) := encode_begins others
      rw [← keys] at freeToo begins
      have split : ∀ {key value other : List Symbol},
          (∀ key ∈ nextKeys fields, Free mark key value) →
          (∀ key ∈ nextKeys fields, Free mark key other) →
          mark :: (key ++ (value ++ encode mark fields)) =
            mark :: (key ++ (other ++ encode mark others)) → value = other ∧ fields = others := by
        intro key value other one two equal
        have cut := List.append_cancel_left (List.cons_eq_cons.mp equal).2
        obtain ⟨values, tails⟩ :=
          Free.split rest.unmarked one two (encode_begins fields) begins cut
        exact ⟨values, ih rest restToo tails⟩
      cases head with
      | required key value other =>
          obtain ⟨rfl, rfl⟩ := split (free value rfl) (freeToo other rfl) same
          rfl
      | optional key value other =>
          cases value with
          | none =>
              cases other with
              | none => rw [ih rest restToo same]
              | some other => exact absurd (same ▸ encode_begins fields) (Begins.not_apart apart)
          | some value =>
              cases other with
              | none => exact absurd (same ▸ begins) (Begins.not_apart apart)
              | some other =>
                  obtain ⟨rfl, rfl⟩ := split (free value rfl) (freeToo other rfl) same
                  rfl

/-- The field cannot be mistaken for one with the key, and neither can its value. -/
structure Silent (mark : Symbol) (key : List Symbol) (field : KeyedField Symbol) : Prop where
  apart : Apart field.key key
  unmarked : mark ∉ field.key
  free : ∀ value ∈ field.value, Free mark key value

section Reads

variable {key before after : List Symbol}

/-- A key that follows a mark lies behind a silent field. -/
theorem Silent.behind {field : KeyedField Symbol} (silent : Silent mark key field)
    (unmarked : mark ∉ key)
    (same : before ++ mark :: (key ++ after) = encode mark (field :: fields)) :
    ∃ between, before = encode mark [field] ++ between ∧
      between ++ mark :: (key ++ after) = encode mark fields := by
  cases found : field.value with
  | none => exact ⟨before, by simp [encode, found], by simpa [encode, found] using same⟩
  | some value =>
      simp only [encode, found] at same ⊢
      cases before with
      | nil =>
          have begins := (List.cons_eq_cons.mp same).2
          exact (silent.apart.not_both (List.prefix_append _ _)
            (begins ▸ List.prefix_append key after)).elim
      | cons symbol before =>
          obtain ⟨rfl, inner⟩ := List.cons_eq_cons.mp same
          rw [← List.append_assoc] at inner
          obtain ⟨between, rfl, tail⟩ := ((silent.free value found).append silent.unmarked).behind
            unmarked (encode_begins fields).marked inner
          exact ⟨between, by simp, tail⟩

/-- An encoding of silent fields is free of the key. -/
theorem free_encode (unmarked : mark ∉ key) (silent : ∀ field ∈ fields, Silent mark key field) :
    Free mark key (encode mark fields) := by
  rintro ⟨before, after, same⟩
  rw [List.append_assoc, List.cons_append] at same
  induction fields generalizing before with
  | nil => simp [encode] at same
  | cons field fields ih =>
      obtain ⟨first, rest⟩ := List.forall_mem_cons.mp silent
      obtain ⟨between, -, tail⟩ := first.behind unmarked same
      exact ih rest between tail

/-- The only field of an encoding with the key stands where the key follows a mark. -/
theorem encode_reads {field : KeyedField Symbol} {earlier later : List (KeyedField Symbol)}
    (unmarked : mark ∉ field.key) (free : ∀ value ∈ field.value, Free mark field.key value)
    (silent : ∀ other ∈ earlier ++ later, Silent mark field.key other)
    (same : before ++ mark :: (field.key ++ after) = encode mark (earlier ++ field :: later)) :
    before = encode mark earlier ∧
      ∃ value, field.value = some value ∧ after = value ++ encode mark later := by
  induction earlier generalizing before with
  | nil =>
      have absent := free_encode unmarked silent
      cases found : field.value with
      | none =>
          rw [List.nil_append, encode, found] at same
          exact absurd ⟨before, after, by simpa using same⟩ absent
      | some value =>
          simp only [List.nil_append, encode, found] at same ⊢
          cases before with
          | nil =>
              exact ⟨rfl, value, rfl, List.append_cancel_left (List.cons_eq_cons.mp same).2⟩
          | cons symbol before =>
              obtain ⟨rfl, inner⟩ := List.cons_eq_cons.mp same
              rw [← List.append_assoc] at inner
              obtain ⟨between, -, tail⟩ := ((free value found).append unmarked).behind unmarked
                (encode_begins later).marked inner
              exact absurd ⟨between, after, by simpa using tail⟩ absent
  | cons other earlier ih =>
      obtain ⟨first, rest⟩ := List.forall_mem_cons.mp silent
      obtain ⟨between, rfl, tail⟩ := first.behind unmarked same
      obtain ⟨rfl, found⟩ := ih rest tail
      refine ⟨?_, found⟩
      cases value : other.value <;> simp [encode, value]

end Reads

end Web3Id.Library.KeyedLines
