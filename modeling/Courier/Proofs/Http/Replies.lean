import Courier.Http.Exchange
import Courier.Proofs.Http.HeaderValues

/-!
# What a response shows of a reply

A reply is made a response before anything else is done with it. The status stays, the body is read
as text, and headers are put together by name: each name keeps its values in their order.
-/

namespace Courier.Http

/-- Headers of other names do not matter to those of one. -/
theorem filter_groupHeaders (name : String) (headers : Headers) (seen : List String) :
    (groupHeaders headers seen).filter (·.1 = name)
      = if name ∈ seen then [] else headers.filter (·.1 = name) := by
  induction headers generalizing seen with
  | nil => simp [groupHeaders]
  | cons header rest ih =>
    obtain ⟨n, value⟩ := header
    by_cases hseen : n ∈ seen
    · -- these were put together where the name first appeared
      rw [groupHeaders, if_pos hseen, ih]
      by_cases hname : name ∈ seen
      · rw [if_pos hname, if_pos hname]
      · have hne : n ≠ name := fun h => hname (h ▸ hseen)
        simp [hname, hne]
    · rw [groupHeaders, if_neg hseen, List.filter_cons, List.filter_append, ih]
      by_cases hsame : n = name
      · subst hsame
        simp [hseen]
      · have hmore : name ∈ n :: seen ↔ name ∈ seen := by simp [Ne.symm hsame]
        have hnone : (rest.filter (·.1 = n)).filter (·.1 = name) = [] := by
          simp only [List.filter_filter, List.filter_eq_nil_iff, Bool.and_eq_true,
            decide_eq_true_eq, not_and]
          rintro x - rfl
          exact Ne.symm hsame
        simp [hsame, hmore, hnone]

theorem mem_of_mem_groupHeaders {header : String × String} {headers : Headers}
    {seen : List String} (h : header ∈ groupHeaders headers seen) : header ∈ headers := by
  induction headers generalizing seen with
  | nil => simp [groupHeaders] at h
  | cons first rest ih =>
    obtain ⟨n, value⟩ := first
    rw [groupHeaders] at h
    split at h
    · exact List.mem_cons_of_mem _ (ih h)
    · rcases List.mem_cons.mp h with rfl | h
      · exact List.mem_cons_self
      · rcases List.mem_append.mp h with h | h
        · exact List.mem_cons_of_mem _ (List.mem_filter.mp h).1
        · exact List.mem_cons_of_mem _ (ih h)

/-- **What a response shows of a reply**: its status, its body as text, and under every name the
values of that name in order, as text without blanks around them. -/
structure Shows (reply : WireReply) (response : Response) : Prop where
  status : response.status = reply.status
  lower : ∀ h ∈ response.headers, lowerName h.1 = h.1
  headers : ∀ name, valuesOf name response.headers
    = (reply.headers.filter fun h => lowerName h.1 = lowerName name).map fun h =>
      trimValue (Utf8.decodeLossy h.2)
  body : response.body = Utf8.decodeLossy reply.body

/-- Nothing of a reply is lost on the way to its response. -/
theorem shows_toResponse (reply : WireReply) : Shows reply reply.toResponse := by
  have hlower : ∀ h ∈ reply.toResponse.headers, lowerName h.1 = h.1 := by
    intro h hmem
    obtain ⟨header, -, rfl⟩ := List.mem_map.mp (mem_of_mem_groupHeaders hmem)
    exact lowerName_lowerName header.1
  refine ⟨rfl, hlower, ?_, rfl⟩
  intro name
  have hname : reply.toResponse.headers.filter (fun h => lowerName h.1 = lowerName name)
      = reply.toResponse.headers.filter (·.1 = lowerName name) :=
    List.filter_congr fun h hmem => by rw [hlower h hmem]
  rw [valuesOf, hname, WireReply.toResponse, filter_groupHeaders, if_neg List.not_mem_nil,
    List.filter_map, List.map_map]
  rfl

end Courier.Http
