import LateBinding.Module.Image
import LateBinding.Proofs.Module.StringPool

/-!
# Encoders that add texts to a pool

An encoder of a table puts the names that it meets into the pool and writes their indices.  What it
adds is known in advance, and running it again on any later pool gives the same bytes.  So a table can
be looked at as if the whole pool had been there from the start.
-/

namespace LateBinding

/-- The pool after texts have been added one after the other. -/
def StringPool.addAll (pool : StringPool) (texts : List String) : StringPool :=
  texts.foldl (fun pool text => (pool.add text).2) pool

namespace StringPool

@[simp] theorem addAll_cons
    (pool : StringPool)
    (text : String)
    (texts : List String) :
    pool.addAll (text :: texts) = (pool.add text).2.addAll texts := rfl

@[simp] theorem addAll_append
    (pool : StringPool)
    (texts later : List String) :
    pool.addAll (texts ++ later) = (pool.addAll texts).addAll later :=
  List.foldl_append

theorem addAll_extends
    (pool : StringPool)
    (texts : List String) :
    (pool.addAll texts).Extends pool := by
  induction texts generalizing pool with
  | nil => exact Extends.refl pool
  | cons text rest inductionHypothesis =>
      exact (inductionHypothesis (pool.add text).2).trans (add_extends pool text)

/-- Every added text is held in the end. -/
theorem holds_addAll
    {pool : StringPool}
    {texts : List String}
    {text : String}
    (present : text ∈ texts) :
    (pool.addAll texts).Holds text := by
  induction texts generalizing pool with
  | nil => simp at present
  | cons first rest inductionHypothesis =>
      rcases List.mem_cons.mp present with rfl | later
      · exact (addAll_extends (pool.add text).2 rest).holds (holds_add pool text)
      · exact inductionHypothesis later

/-- Texts that are held change nothing. -/
theorem addAll_of_holds
    {pool : StringPool}
    {texts : List String}
    (holds : ∀ text ∈ texts, pool.Holds text) :
    pool.addAll texts = pool := by
  induction texts with
  | nil => rfl
  | cons text rest inductionHypothesis =>
      obtain ⟨first, later⟩ := List.forall_mem_cons.mp holds
      rw [addAll_cons, snd_add_of_holds first]
      exact inductionHypothesis later

end StringPool

namespace Pooled

/-- An encoder adds these texts, and gives the same result on every later pool. -/
structure Adds (encoder : Pooled Item) (texts : List String) : Prop where
  /-- The pool afterwards. -/
  pool_eq : ∀ pool, (encoder pool).2 = pool.addAll texts
  /-- A later run repeats the result and changes nothing. -/
  repeats : ∀ pool larger : StringPool,
    larger.Extends (encoder pool).2 → encoder larger = ((encoder pool).1, larger)

theorem bind_run
    (first : Pooled Item)
    (next : Item → Pooled Result)
    (pool : StringPool) :
    (first >>= next) pool = next (first pool).1 (first pool).2 := rfl

namespace Adds

theorem pure (item : Item) : Adds (Pure.pure item) [] where
  pool_eq _ := rfl
  repeats _ _ _ := rfl

theorem indexOf (text : String) : Adds (Pooled.indexOf text) [text] where
  pool_eq _ := rfl
  repeats _ _ extension := StringPool.add_eq_of_extends extension

theorem bind
    {first : Pooled Item}
    {next : Item → Pooled Result}
    {texts later : List String}
    (firstAdds : first.Adds texts)
    (nextAdds : ∀ item, (next item).Adds later) :
    (first >>= next).Adds (texts ++ later) where
  pool_eq pool := by
    rw [bind_run, (nextAdds _).pool_eq, firstAdds.pool_eq, StringPool.addAll_append]
  repeats pool larger extension := by
    rw [bind_run] at extension ⊢
    have between : (next (first pool).1 (first pool).2).2.Extends (first pool).2 := by
      rw [(nextAdds _).pool_eq]
      exact StringPool.addAll_extends _ _
    rw [firstAdds.repeats pool larger (extension.trans between)]
    exact (nextAdds _).repeats _ larger extension

/-- An encoder whose result is only rearranged adds the same texts. -/
theorem bind_pure
    {first : Pooled Item}
    {texts : List String}
    (firstAdds : first.Adds texts)
    (result : Item → Result) :
    (first >>= fun item => Pure.pure (result item)).Adds texts := by
  have both : (first >>= fun item => Pure.pure (result item)).Adds (texts ++ []) :=
    firstAdds.bind fun item => Adds.pure (result item)
  rwa [List.append_nil] at both

/-- On a pool that holds its texts an encoder changes nothing. -/
theorem pool_eq_of_holds
    {encoder : Pooled Item}
    {texts : List String}
    (adds : encoder.Adds texts)
    {pool : StringPool}
    (holds : ∀ text ∈ texts, pool.Holds text) :
    (encoder pool).2 = pool := by
  rw [adds.pool_eq, StringPool.addAll_of_holds holds]

theorem concat
    {encode : Item → Pooled Bytes}
    {texts : Item → List String}
    (items : List Item)
    (each : ∀ item ∈ items, (encode item).Adds (texts item)) :
    (Pooled.concat encode items).Adds (items.flatMap texts) := by
  induction items with
  | nil => exact Adds.pure []
  | cons item rest inductionHypothesis =>
      obtain ⟨first, later⟩ := List.forall_mem_cons.mp each
      apply first.bind
      intro bytes
      exact (inductionHypothesis later).bind_pure fun laterBytes => bytes ++ laterBytes

end Adds

/-- On a pool that no item changes, the bytes of items are the bytes of each. -/
theorem concat_of_fixed
    {encode : Item → Pooled Bytes}
    {pool : StringPool}
    {items : List Item}
    (fixed : ∀ item ∈ items, (encode item pool).2 = pool) :
    (concat encode items pool).1 = items.flatMap fun item => (encode item pool).1 := by
  induction items with
  | nil => rfl
  | cons item rest inductionHypothesis =>
      obtain ⟨first, later⟩ := List.forall_mem_cons.mp fixed
      rw [concat, bind_run, bind_run, first, List.flatMap_cons, ← inductionHypothesis later]
      rfl

end Pooled

/-! ## The texts of the parts of a module -/

/-- The texts that a type adds. -/
def ValueType.texts : ValueType → List String
  | .named name => [name]
  | _ => []

/-- The texts that a field adds. -/
def Field.texts (field : Field) : List String :=
  field.name :: field.type.texts

/-- The texts that a member adds. -/
def Member.texts (member : Member) : List String :=
  member.name :: (member.result.texts ++ member.parameters.flatMap ValueType.texts)

/-- The texts that an image adds. -/
def ModuleImage.texts (image : ModuleImage) : List String :=
  image.name ::
    (image.fields.flatMap Field.texts ++ image.members.flatMap Member.texts)

section Texts

variable {property : String → Prop}

theorem Field.forall_mem_texts {field : Field} :
    (∀ text ∈ field.texts, property text) ↔
      property field.name ∧ ∀ text ∈ field.type.texts, property text :=
  List.forall_mem_cons

theorem Member.forall_mem_texts {member : Member} :
    (∀ text ∈ member.texts, property text) ↔
      property member.name ∧ (∀ text ∈ member.result.texts, property text) ∧
        ∀ type ∈ member.parameters, ∀ text ∈ type.texts, property text := by
  simp only [texts, List.forall_mem_cons, List.forall_mem_append, List.forall_mem_flatMap]

theorem ModuleImage.forall_mem_texts {image : ModuleImage} :
    (∀ text ∈ image.texts, property text) ↔
      property image.name ∧ (∀ field ∈ image.fields, ∀ text ∈ field.texts, property text) ∧
        ∀ member ∈ image.members, ∀ text ∈ member.texts, property text := by
  simp only [texts, List.forall_mem_cons, List.forall_mem_append, List.forall_mem_flatMap]

end Texts

/-! ## What encoders add -/

theorem ValueType.encode_adds (type : ValueType) : type.encode.Adds type.texts := by
  cases type with
  | named name => exact (Pooled.Adds.indexOf name).bind_pure _
  | void => exact Pooled.Adds.pure _
  | boolean => exact Pooled.Adds.pure _
  | int => exact Pooled.Adds.pure _
  | long => exact Pooled.Adds.pure _
  | double => exact Pooled.Adds.pure _
  | string => exact Pooled.Adds.pure _

theorem Field.encode_adds (field : Field) : field.encode.Adds field.texts :=
  (Pooled.Adds.indexOf field.name).bind fun _ => field.type.encode_adds.bind_pure _

theorem Member.encode_adds (member : Member) (codeOffset : Nat) :
    (member.encode codeOffset).Adds member.texts := by
  apply (Pooled.Adds.indexOf member.name).bind
  intro nameIndex
  apply member.result.encode_adds.bind
  intro result
  exact (Pooled.Adds.concat member.parameters fun type _ => type.encode_adds).bind_pure _

theorem Member.encodeFrom_adds (members : List Member) (codeOffset : Nat) :
    (Member.encodeFrom codeOffset members).Adds (members.flatMap Member.texts) := by
  induction members generalizing codeOffset with
  | nil => exact Pooled.Adds.pure []
  | cons member rest inductionHypothesis =>
      apply (member.encode_adds codeOffset).bind
      intro bytes
      exact (inductionHypothesis _).bind_pure fun later => bytes ++ later

theorem Member.encodeTable_adds (members : List Member) (codeOffset : Nat) :
    (Member.encodeTable codeOffset members).Adds (members.flatMap Member.texts) :=
  (Member.encodeFrom_adds members codeOffset).bind_pure _

theorem ModuleImage.tables_adds (image : ModuleImage) : image.tables.Adds image.texts := by
  have fields : (Pooled.concat Field.encode image.fields).Adds (image.fields.flatMap Field.texts) :=
    Pooled.Adds.concat image.fields fun field _ => field.encode_adds
  have constructor := Member.encodeTable_adds [image.constructor] 0
  have methods := Member.encodeTable_adds image.methods image.constructor.code.encode.length
  have split : image.members.flatMap Member.texts =
      [image.constructor].flatMap Member.texts ++ image.methods.flatMap Member.texts := by
    simp [members]
  rw [texts, split]
  apply (Pooled.Adds.indexOf image.name).bind
  intro nameIndex
  apply fields.bind
  intro fieldTable
  apply constructor.bind
  intro constructorTable
  exact methods.bind_pure _

end LateBinding
