import BucketStore.Proofs.Store.Lemmas.GuardedOperations
import BucketStore.Proofs.Store.Theorems

/-!
# Errors that are not documented

Reading an object's headers, a page or a full listing fails with the errors that are documented for
it and with no others, as long as the answers have shapes that can be read. What cannot be read
fails in other ways: a time past the end of the calendar, a tag that is no text, a tag set with a
record that has no key.
-/

namespace BucketStore.Store

open BucketStore.Action

variable {σ : Type}

/-- The reading operations of a store keep to the errors that are documented for them. -/
structure KeepsToErrors (s : Store σ) : Prop where
  head : ∀ key option, option.HasLifetime →
    Guards s.service (fun told => told = .storage (.objectNotFound key []) ∨ told.IsRemote) True
      (s.head key option)
  contains : ∀ key session,
    Answered s.service (.headObject s.bucket key) session ((s.contains key).eval session)
  noRequest : ∀ option session, (s.listPaginated none option).eval session =
    (.error (.storage (.invalidArgument (.text "input cannot be nil") .null)), session)
  badPageSize : ∀ request option session, request.pageSize.isPositive? = some false →
    (s.listPaginated (some request) option).eval session =
      (.error (badPageSize request.pageSize), session)
  listPaginated : ∀ request option, request.pageSize.isPositive? = some true →
    option.HasLifetime →
    Guards s.service Failure.IsRemote True (s.listPaginated (some request) option)
  listAll : ∀ fuel keyPrefix option, option.HasLifetime →
    Guards s.service Failure.IsRemote True (s.listAll fuel keyPrefix option)

theorem keepsToErrors (s : Store σ) : s.KeepsToErrors where
  head _ _ hexpire := s.head_guards (fun c text => .inr ⟨c, text, rfl⟩) (.inl rfl) hexpire
  contains := s.contains_answered
  noRequest _ _ := rfl
  badPageSize request option session hsize := by
    have hcheck : checkPageSize request.pageSize = .error (Store.badPageSize request.pageSize) := by
      rw [checkPageSize, hsize]
    rw [listPaginated, listPage, hcheck]
    rfl
  listPaginated request option hsize hexpire := by
    have hcheck : checkPageSize request.pageSize = .ok () := by
      rw [checkPageSize, hsize]
    exact s.listPage_guards hexpire hcheck
  listAll fuel keyPrefix _ hexpire := s.listFrom_guards hexpire keyPrefix fuel (.text "") []

/-- Headers with a time that universal time has no date for. -/
def lateHeaders : Value :=
  .object [("Last-Modified", .text "Fri, 31 Dec 9999 23:59:59 -0100")]

/-- A tag set with a record that has no key. -/
def keylessTags : Value :=
  .object [("TagSet", .object [("Tag", .list [.object [("Value", .text "v")]])])]

/-- An object is there, and looking for it or at it fails with no error of the library. -/
theorem reading_leaks :
    ((scripted.contains (.text "a")).eval
      { state := [("head_object", .answer (.value lateHeaders))] }).1 = .error .overflow ∧
    Failure.overflow.isStorage = false ∧
    ((scripted.contains (.text "a")).eval
      { state := [("head_object", .answer (.value (.object [("ETag", .int 5)])))] }).1 =
      .error .missingAttribute ∧
    Failure.missingAttribute.isStorage = false ∧
    ((scripted.head (.text "a") { withTagging := true }).eval
      { state := [("get_object_tagging", .answer (.value keylessTags))] }).1 =
      .error (.missingKey (.text "Key")) ∧
    (Failure.missingKey (.text "Key")).isStorage = false := by
  refine ⟨?_, rfl, ?_, rfl, ?_, rfl⟩
  · rfl
  · rfl
  · rfl

end BucketStore.Store
