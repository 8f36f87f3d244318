import Courier.Method
import Courier.Proofs.Shape.RoundTrip
import Courier.Proofs.Steps
import Courier.Proofs.TextBody

/-!
# Methods and their tokens

Every string is the token of the method that is read from it, so methods tell all tokens apart. The
other way round there is an exception: a custom method under a standard token is read as the method
of that token. No method that was read from a JSON text is of this kind, and so each of them comes
back from the text that is written for it.
-/

namespace Courier.Method

/-- The methods that have names of their own. -/
def named : List Method :=
  [get, post, put, delete, patch, head, options]

/-- The tokens of the methods that have names of their own. -/
def standardTokens : List String :=
  ["GET", "POST", "PUT", "DELETE", "PATCH", "HEAD", "OPTIONS"]

theorem mem_standardTokens_iff {token : String} :
    token ∈ standardTokens ↔ ∃ m ∈ named, m.token = token := by
  have htokens : standardTokens = named.map Method.token := rfl
  rw [htokens, List.mem_map]

/-! ## From tokens and back -/

/-- A part of a longer text is read as if it stood alone: slices are compared by what they hold. -/
theorem ofSlice_eq (part : String.Slice) : ofSlice part = ofToken part.copy := by
  simp only [ofToken, ofSlice, String.Slice.beq_eq_decide, String.copy_toSlice]

theorem ofToken_eq (token : String) : ofToken token =
    if token = "GET" then get
    else if token = "POST" then post
    else if token = "PUT" then put
    else if token = "DELETE" then delete
    else if token = "PATCH" then patch
    else if token = "HEAD" then head
    else if token = "OPTIONS" then options
    else custom token := by
  simp only [ofToken, ofSlice, String.Slice.beq_eq_decide, String.copy_toSlice, decide_eq_true_eq]

theorem ofToken_token_of_mem_named : ∀ m ∈ named, ofToken m.token = m := by
  simp only [ofToken_eq]
  decide

theorem ne_custom_of_mem_named {m : Method} (h : m ∈ named) (token : String) :
    m ≠ custom token := by
  rintro rfl
  simp [named] at h

theorem ofToken_of_not_mem {token : String} (h : token ∉ standardTokens) :
    ofToken token = custom token := by
  simp only [standardTokens, List.mem_cons, List.not_mem_nil, or_false, not_or] at h
  obtain ⟨hget, hpost, hput, hdelete, hpatch, hhead, hoptions⟩ := h
  rw [ofToken_eq, if_neg hget, if_neg hpost, if_neg hput, if_neg hdelete, if_neg hpatch,
    if_neg hhead, if_neg hoptions]

/-- **No token is changed** by being read as a method. -/
theorem token_ofToken (token : String) : (ofToken token).token = token := by
  by_cases h : token ∈ standardTokens
  · obtain ⟨m, hm, rfl⟩ := mem_standardTokens_iff.mp h
    rw [ofToken_token_of_mem_named m hm]
  · rw [ofToken_of_not_mem h, Method.token]

/-- No two strings are read as one method. -/
theorem ofToken_injective : Function.Injective ofToken := by
  intro s t h
  rw [← token_ofToken s, ← token_ofToken t, h]

/-- **Methods that come back** from their tokens: all but the custom ones under a standard token. -/
theorem ofToken_token_eq_self_iff (m : Method) :
    ofToken m.token = m ↔ ¬ ∃ token ∈ standardTokens, m = custom token := by
  cases m with
  | custom token =>
    simp only [custom.injEq, exists_eq_right', Method.token]
    constructor
    · -- under a standard token another method would be read
      intro h hmem
      obtain ⟨n, hn, rfl⟩ := mem_standardTokens_iff.mp hmem
      rw [ofToken_token_of_mem_named n hn] at h
      exact ne_custom_of_mem_named hn _ h
    · exact ofToken_of_not_mem
  | get | post | put | delete | patch | head | options =>
    exact iff_of_true (ofToken_token_of_mem_named _ (by decide)) (by rintro ⟨_, _, ⟨⟩⟩)

/-! ## From JSON texts and back -/

/-- A method is read from the text of a JSON string, and from nothing else. -/
theorem parse_eq_ok_iff {body : String} {m : Method} :
    parse body = .ok m ↔ ∃ token, Json.IsLiteral body token ∧ m = ofToken token := by
  rw [parse, map_eq_ok_iff]
  constructor
  · rintro ⟨d, hd, rfl⟩
    obtain ⟨token, hspelled, rfl⟩ := Shape.parse_text_eq_ok_iff.mp hd
    exact ⟨token, hspelled, rfl⟩
  · rintro ⟨token, hspelled, rfl⟩
    exact ⟨.text token, Shape.parse_text_eq_ok_iff.mpr ⟨token, hspelled, rfl⟩, rfl⟩

theorem parse_toJson_text (m : Method) : parse m.toJson.text = .ok (ofToken m.token) := by
  have hread : Shape.text.parse m.toJson.text = .ok (.text m.token) :=
    Shape.parse_text_of_restores (Shape.restores_text _ m.token)
  rw [parse, hread]
  rfl

/-- Whatever text a method was read from, it comes back from its own text. -/
theorem parse_toJson_text_of_parse {body : String} {m : Method} (h : parse body = .ok m) :
    parse m.toJson.text = .ok m := by
  obtain ⟨token, -, rfl⟩ := parse_eq_ok_iff.mp h
  rw [parse_toJson_text, token_ofToken]

/-- **Tokens come back**: the method read from a string has this string as its token, is shown by
it, stands for it and is written as it to JSON. No two strings are read as one method, and it does
not matter whether a string stands alone or is a part of a longer one. A method comes back from its
token unless it is a custom one under a standard token. What is written for it in JSON is read as
the method of its token, and a second time changes nothing. -/
theorem tokens_come_back :
    (∀ s : String, (ofToken s).token = s ∧ toString (ofToken s) = s ∧
      ((ofToken s : Method) : String) = s ∧ (ofToken s).toJson = .string s) ∧
    Function.Injective ofToken ∧
    (∀ part : String.Slice, ofSlice part = ofToken part.copy) ∧
    (∀ m : Method, ofToken m.token = m ↔ ¬ ∃ token ∈ standardTokens, m = custom token) ∧
    ∀ m : Method, parse m.toJson.text = .ok (ofToken m.token) ∧
      parse (ofToken m.token).toJson.text = .ok (ofToken m.token) := by
  refine ⟨fun s => ?_, ofToken_injective, ofSlice_eq, ofToken_token_eq_self_iff, fun m => ?_⟩
  · have htoken := token_ofToken s
    exact ⟨htoken, htoken, htoken, congrArg Json.string htoken⟩
  · have hread := parse_toJson_text m
    exact ⟨hread, parse_toJson_text_of_parse hread⟩

/-- A custom method under a standard token is not told from the method of that token. -/
example : ofToken (custom "PATCH").token = patch := by cbv

end Courier.Method
