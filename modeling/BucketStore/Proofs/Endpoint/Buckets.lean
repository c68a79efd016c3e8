import BucketStore.Proofs.Endpoint.Lemmas.Sources

/-!
# Buckets of one service

Which host a service has does not depend on the bucket, and the leftmost label of a bucket's host is
the bucket's name. So no two buckets of a service share a host, also if one of them is a label that
the service's host begins with.
-/

namespace BucketStore.Endpoint

/-- What stands before the first point of a host. -/
def leftmostLabel (host : String) : String :=
  .ofList (host.toList.takeWhile fun c => c != '.')

/-- The endpoints of two buckets at one service, each with a host of its own: the bucket's name is
its leftmost label, and it ends with the host of the service. -/
structure Apart (bucket other : String) (e f : Endpoint) : Prop where
  scheme : e.scheme = f.scheme
  serviceHost : e.serviceHost = f.serviceHost
  bucketHost : e.bucketHost ≠ f.bucketHost
  labels : leftmostLabel e.bucketHost = bucket ∧ leftmostLabel f.bucketHost = other
  ends : e.serviceHost.toList <:+ e.bucketHost.toList ∧ f.serviceHost.toList <:+ f.bucketHost.toList

/-! ## Hosts of buckets -/

theorem leftmostLabel_bucketHostOf {bucket : String} (h : '.' ∉ bucket.toList) (host : String) :
    leftmostLabel (bucketHostOf bucket host) = bucket := by
  obtain ⟨rest, hrest⟩ := prefix_bucketHostOf bucket host
  rw [String.toList_append, List.append_assoc] at hrest
  have hlabel : ∀ c ∈ bucket.toList, (c != '.') = true := fun c hc =>
    bne_iff_ne.mpr (ne_of_mem_of_not_mem hc h)
  rw [leftmostLabel, ← hrest, List.takeWhile_append_of_pos hlabel]
  exact (congrArg String.ofList (List.append_nil _)).trans String.ofList_toList

theorem suffix_bucketHostOf (bucket host : String) :
    host.toList <:+ (bucketHostOf bucket host).toList := by
  rw [bucketHostOf]
  split
  · exact List.suffix_refl _
  · rw [String.toList_append]
    exact List.suffix_append _ _

/-! ## One service for all buckets -/

/-- What is read for one bucket is read for every other. -/
theorem ofSource_other {bucket text : String} {e : Endpoint} (h : ofSource bucket text = .ok e)
    (other : String) :
    ofSource other text = .ok { e with bucketHost := bucketHostOf other e.serviceHost } := by
  rw [ofSource_eq] at h ⊢
  cases hparse : Authority.parse (splitScheme text.toList).2 with
  | error error =>
      rw [hparse] at h
      cases h
  | ok a =>
      simp only [hparse] at h ⊢
      split at h
      · cases h
      · rename_i hhost
        rw [if_neg hhost]
        split at h
        · cases h
        · rename_i hvalid
          cases h
          rw [if_neg hvalid]

theorem resolve_other {bucket endpoint region : String} {e : Endpoint}
    (h : resolve bucket endpoint region = .ok e) {other : String} (hne : other ≠ "") :
    resolve other endpoint region =
      .ok { e with bucketHost := bucketHostOf other e.serviceHost } := by
  rw [resolve_eq (of_resolve h).1] at h
  rw [resolve_eq hne]
  cases hsource : source endpoint region with
  | error error =>
      rw [hsource] at h
      cases h
  | ok text =>
      rw [hsource] at h
      exact ofSource_other h other

/-- Where the endpoint of one bucket is resolved, that of every other bucket is. Names without a
point are kept apart: the hosts of two such buckets differ. -/
theorem resolve_apart {bucket other endpoint region : String} {e : Endpoint}
    (hbucket : '.' ∉ bucket.toList) (hother : '.' ∉ other.toList) (hnonempty : other ≠ "")
    (hne : bucket ≠ other) (h : resolve bucket endpoint region = .ok e) :
    ∃ f, resolve other endpoint region = .ok f ∧ Apart bucket other e f := by
  obtain ⟨-, text, htext⟩ := of_resolve h
  have hhost : e.bucketHost = bucketHostOf bucket e.serviceHost := (of_ofSource htext).2.1
  have hlabel := leftmostLabel_bucketHostOf hbucket e.serviceHost
  have hlabel' := leftmostLabel_bucketHostOf hother e.serviceHost
  rw [← hhost] at hlabel
  refine ⟨_, resolve_other h hnonempty, rfl, rfl, fun hsame => hne ?_, ⟨hlabel, hlabel'⟩, ?_,
    suffix_bucketHostOf other e.serviceHost⟩
  · rw [← hlabel, hsame, hlabel']
  · rw [hhost]
    exact suffix_bucketHostOf bucket e.serviceHost

/-- A bucket that the host of the service begins with, and another one. -/
theorem resolve_apart_cos :
    resolve "cos" "http://cos.local:9000" "" = .ok ⟨"http", "cos.local:9000", "cos.local:9000"⟩ ∧
    resolve "demo" "http://cos.local:9000" "" =
      .ok ⟨"http", "cos.local:9000", "demo.cos.local:9000"⟩ ∧
    Apart "cos" "demo" ⟨"http", "cos.local:9000", "cos.local:9000"⟩
      ⟨"http", "cos.local:9000", "demo.cos.local:9000"⟩ := by
  have h : resolve "cos" "http://cos.local:9000" "" =
      .ok ⟨"http", "cos.local:9000", "cos.local:9000"⟩ := by rfl
  have h' : resolve "demo" "http://cos.local:9000" "" =
      .ok ⟨"http", "cos.local:9000", "demo.cos.local:9000"⟩ := by rfl
  obtain ⟨f, hf, hapart⟩ :=
    @resolve_apart "cos" "demo" _ _ _ (by decide) (by decide) (by decide) (by decide) h
  cases h'.symm.trans hf
  exact ⟨h, h', hapart⟩

end BucketStore.Endpoint
