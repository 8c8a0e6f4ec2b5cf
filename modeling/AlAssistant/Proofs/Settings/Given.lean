import AlAssistant.Proofs.Settings.Wrapping
import Mathlib.Data.List.Forall2

/-!
# Objects that give settings

An object gives settings by one member for each of their fields, in any order and among any other
members. A field that has its default may be left out, and so may the whole translation; a product
has all its fields.
-/
namespace AlAssistant.Settings

open AlAssistant.Json

/-- The members of an object. -/
abbrev Members := List (Literal × Value)

namespace Members

/-- No member has this key. -/
def Lacks (members : Members) (key : String) : Prop := ∀ member ∈ members, member.1 ≠ some key

/-- One member has this key, and no other does. -/
def Holds (members : Members) (key : String) (value : Value) : Prop :=
  ∃ before after : Members, members = before ++ (some key, value) :: after ∧
    before.Lacks key ∧ after.Lacks key

/-- Every key stands for a text. -/
def HasTextKeys (members : Members) : Prop := ∀ member ∈ members, member.1.isSome = true

instance (members : Members) (key : String) : Decidable (members.Lacks key) :=
  inferInstanceAs (Decidable (∀ member ∈ members, member.1 ≠ some key))

instance (members : Members) : Decidable members.HasTextKeys :=
  inferInstanceAs (Decidable (∀ member ∈ members, member.1.isSome = true))

/-- A field as its member writes it, or its default where there is none. -/
inductive Gives {α : Type} (members : Members) (key : String) (default : α)
    (IsWritten : Value → α → Prop) : α → Prop
  | member {value : Value} {a : α} : members.Holds key value → IsWritten value a →
      Gives members key default IsWritten a
  | leftOut : members.Lacks key → Gives members key default IsWritten default

end Members

/-- A product has a member for each of its fields. -/
def Product.GivenBy (value : Value) (product : Product) : Prop :=
  ∃ members : Members, value = .object members ∧ members.HasTextKeys ∧
    members.Holds "label" (.text product.label) ∧ members.Holds "id" (.nat product.id)

structure Translation.GivenBy (members : Members) (t : Translation) : Prop where
  keys : members.HasTextKeys
  targetLanguage : members.Gives "targetLanguage" default.targetLanguage
    (fun value language => value = .text language) t.targetLanguage
  maxTranslations : members.Gives "maxTranslations" default.maxTranslations
    (fun value limit => value = .nat limit) t.maxTranslations
  productId : members.Gives "productId" default.productId
    (fun value product => value = .nat product) t.productId
  searchUrl : members.Gives "searchUrl" default.searchUrl
    (fun value url => value = .text url) t.searchUrl
  hover : members.Gives "hover" default.hover (fun value hover => value = .bool hover) t.hover
  fallbackProducts : members.Gives "fallbackProducts" default.fallbackProducts
    (fun value products => ∃ items, value = .array items ∧
      List.Forall₂ Product.GivenBy items products) t.fallbackProducts

structure GivenBy (members : Members) (settings : Settings) : Prop where
  keys : members.HasTextKeys
  translation : members.Gives "translation" Translation.default
    (fun value t => ∃ inner, value = .object inner ∧ Translation.GivenBy inner t)
    settings.translation

/-- The numbers of settings have 64 bits, those of products 32. -/
structure InRange (settings : Settings) : Prop where
  maxTranslations : settings.translation.maxTranslations < 0x10000000000000000
  productId : settings.translation.productId < 0x100000000
  products : ∀ product ∈ settings.translation.fallbackProducts, product.id < 0x100000000

section Decoding
variable {members : Members} {key : String} {value : Value}

theorem Members.Lacks.filter (h : members.Lacks key) :
    members.filter (·.1 == some key) = [] := by
  rw [List.filter_eq_nil_iff]
  intro member hm
  simpa using h member hm

theorem Members.Lacks.member? {presence : Presence} (h : members.Lacks key)
    (hp : presence ≠ .required) : member? members (key, presence) = some none := by
  rw [Json.member?, h.filter]
  exact if_neg hp

theorem Members.Holds.member? (h : members.Holds key value) (presence : Presence) :
    member? members (key, presence) = some (some value) := by
  obtain ⟨before, after, rfl, hb, ha⟩ := h
  rw [Json.member?, List.filter_append, List.filter_cons_of_pos (by simp), hb.filter, ha.filter]
  rfl

/-- A field that is given is decoded. -/
theorem Members.Gives.decode {α : Type} {default a : α} {IsWritten : Value → α → Prop}
    (decode : Value → Option α) (h : members.Gives key default IsWritten a)
    (hd : ∀ value, IsWritten value a → decode value = some a) :
    ∃ field, Json.member? members (key, .defaulted) = some field ∧
      defaulted? decode default field = some a := by
  cases h with
  | member hm hw => exact ⟨_, hm.member? .defaulted, hd _ hw⟩
  | leftOut hl => exact ⟨none, hl.member? (by decide), rfl⟩

theorem members?_object (h : members.HasTextKeys) (fields : List Field) :
    (Value.object members).fields? fields = fields.mapM (Json.member? members) := by
  rw [Value.fields?, Value.members?, if_pos (List.all_eq_true.2 h)]
  simp

theorem natBelow?_nat {bound n : Nat} (h : n < bound) : (Value.nat n).natBelow? bound = some n := by
  simp [Value.nat, Value.natBelow?, h]

theorem nat32?_nat {n : Nat} (h : n < 0x100000000) : (Value.nat n).nat32? = some n := by
  rw [Value.nat32?, natBelow?_nat h]

theorem nat64?_nat {n : Nat} (h : n < 0x10000000000000000) : (Value.nat n).nat64? = some n := by
  rw [Value.nat64?, natBelow?_nat h]

theorem Product.ofValue?_of_fields {label id : Option Value} {product : Product}
    (hf : value.fields? [("label", .required), ("id", .required)] = some [label, id])
    (hl : required? Value.text? label = some product.label)
    (hi : required? Value.nat32? id = some product.id) : Product.ofValue? value = some product := by
  rw [Product.ofValue?, hf]
  simp [hl, hi]

theorem Product.GivenBy.ofValue? {product : Product} (h : product.GivenBy value)
    (hr : product.id < 0x100000000) : Product.ofValue? value = some product := by
  obtain ⟨members, rfl, hk, hl, hi⟩ := h
  have hlabel : required? Value.text? (some (.text product.label)) = some product.label := rfl
  have hid : required? Value.nat32? (some (.nat product.id)) = some product.id := by
    rw [required?, Option.bind_some, nat32?_nat hr]
  refine Product.ofValue?_of_fields ?_ hlabel hid
  rw [members?_object hk]
  simp [hl.member?, hi.member?]

theorem list?_ofValue? {items : List Value} {products : List Product}
    (h : List.Forall₂ Product.GivenBy items products)
    (hr : ∀ product ∈ products, product.id < 0x100000000) :
    (Value.array items).list? Product.ofValue? = some products := by
  rw [Value.list?]
  induction h with
  | nil => rfl
  | cons hp _ ih =>
    obtain ⟨hfirst, hothers⟩ := List.forall_mem_cons.1 hr
    simp [List.mapM_cons, hp.ofValue? hfirst, ih hothers]

theorem Translation.GivenBy.ofValue? {t : Translation} (h : t.GivenBy members)
    (hr : InRange ⟨t⟩) : Translation.ofValue? (.object members) = some t := by
  obtain ⟨language, hlanguage, hl⟩ := h.targetLanguage.decode Value.text?
    fun value hv => by rw [hv]; rfl
  obtain ⟨limit, hlimit, hm⟩ := h.maxTranslations.decode Value.nat64?
    fun value hv => by rw [hv, nat64?_nat hr.maxTranslations]
  obtain ⟨product, hproduct, hp⟩ := h.productId.decode Value.nat32?
    fun value hv => by rw [hv, nat32?_nat hr.productId]
  obtain ⟨url, hurl, hu⟩ := h.searchUrl.decode Value.text? fun value hv => by rw [hv]; rfl
  obtain ⟨hover, hhover, hh⟩ := h.hover.decode Value.bool? fun value hv => by rw [hv]; rfl
  obtain ⟨products, hproducts, hf⟩ := h.fallbackProducts.decode (Value.list? Product.ofValue?)
    fun value ⟨items, hv, hi⟩ => by rw [hv, list?_ofValue? hi hr.products]
  simp [Translation.ofValue?, Translation.fields, members?_object h.keys, hlanguage, hlimit,
    hproduct, hurl, hhover, hproducts, hl, hm, hp, hu, hh, hf]

theorem GivenBy.ofValue? {settings : Settings} (h : settings.GivenBy members)
    (hr : settings.InRange) : ofValue? (.object members) = some settings := by
  obtain ⟨translation, hmember, ht⟩ := h.translation.decode Translation.ofValue?
    fun value ⟨inner, hv, hi⟩ => by rw [hv, hi.ofValue? hr]
  simp [Settings.ofValue?, members?_object h.keys, hmember, ht]

end Decoding

end AlAssistant.Settings
