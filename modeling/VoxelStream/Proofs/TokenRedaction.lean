import Mathlib.Data.List.Basic
import VoxelStream.HttpStore

/-!
# Errors without the token

The token of a request is a part of its URL, and errors of the client name this URL.  In the text of
such an error the URL stands behind words without a colon, and every URL has a colon.  So the URL
occurs once, where it was put, and replacing it leaves the words with the redacted URL
(`failureText_on`).  The redacted URL has no query, so it is the same for all tokens.

Hence two requests that differ in the token alone come to the same result and the same notices, if
the client makes the same of both (`requestBuckets_token`).
-/

namespace VoxelStream

/-! ## Replacing -/

namespace HttpStore

variable {pattern replacement front back text : List Char} {mark : Char}

theorem replaceAfter_skip (skipped rest : List Char) :
    replaceAfter pattern replacement skipped.length (skipped ++ rest) =
      replaceAfter pattern replacement 0 rest := by
  induction skipped with
  | nil => rfl
  | cons c more ih => exact ih

/-- A text without some character of the pattern has nothing to replace. -/
theorem replaceAll_of_notMem (marked : mark ∈ pattern) (absent : mark ∉ text) :
    replaceAll pattern replacement text = text := by
  induction text with
  | nil => rfl
  | cons c rest ih =>
    have noMatch : ¬pattern <+: c :: rest := fun occurs => absent (occurs.subset marked)
    rw [List.mem_cons, not_or] at absent
    rw [replaceAll, replaceAfter, if_neg (by rwa [List.isPrefixOf_iff_prefix])]
    exact congrArg (c :: ·) (ih absent.2)

/-- The pattern itself is replaced. -/
theorem replaceAll_pattern (marked : mark ∈ pattern) :
    replaceAll pattern replacement (pattern ++ back) =
      replacement ++ replaceAll pattern replacement back := by
  cases pattern with
  | nil => cases marked
  | cons c more =>
    have occurs : c :: more <+: c :: (more ++ back) := List.prefix_append (c :: more) back
    rw [replaceAll, List.cons_append, replaceAfter,
      if_pos (List.isPrefixOf_iff_prefix.mpr occurs)]
    exact congrArg (replacement ++ ·) (replaceAfter_skip more back)

/-- The pattern does not occur before the first place of one of its characters. -/
theorem not_prefix_of_notMem (marked : mark ∈ pattern) (absent : mark ∉ front)
    (nonempty : front ≠ []) : ¬pattern <+: front ++ (pattern ++ back) := by
  rintro ⟨rest, same⟩
  have places := congrArg (List.idxOf mark) same
  rw [List.idxOf_append_of_mem marked, List.idxOf_append_of_notMem absent,
    List.idxOf_append_of_mem marked] at places
  have positive := List.length_pos_iff.mpr nonempty
  omega

/-- Between two texts that lack one of its characters, the pattern occurs once. -/
theorem replaceAll_between (marked : mark ∈ pattern) (absent : mark ∉ front)
    (absentBehind : mark ∉ back) :
    replaceAll pattern replacement (front ++ (pattern ++ back)) =
      front ++ (replacement ++ back) := by
  induction front with
  | nil =>
    rw [List.nil_append, List.nil_append, replaceAll_pattern marked,
      replaceAll_of_notMem marked absentBehind]
  | cons c rest ih =>
    have noMatch : ¬pattern <+: c :: (rest ++ (pattern ++ back)) :=
      not_prefix_of_notMem marked absent (List.cons_ne_nil c rest)
    rw [List.mem_cons, not_or] at absent
    rw [List.cons_append, replaceAll, replaceAfter,
      if_neg (by rwa [List.isPrefixOf_iff_prefix])]
    exact congrArg (c :: ·) (ih absent.2)

/-! ## Errors -/

theorem colon_mem_text (url : Url) : ':' ∈ url.text :=
  List.mem_append_right _ List.mem_cons_self

/-- An error that names its URL shows the redacted one in its place. -/
theorem failureText_on (url : Url) (fault : ClientFault) :
    failureText (fault.on url) = String.ofList (fault.words.toList ++
      if fault.namesUrl then " for url (".toList ++ url.redacted.text ++ [')'] else []) := by
  cases named : fault.namesUrl with
  | false => simp [failureText, ClientFault.on, ClientError.text, named]
  | true =>
    have behind : ':' ∉ fault.words.toList ++ " for url (".toList := by
      rw [List.mem_append, not_or]
      exact ⟨fault.colonless, by decide⟩
    have replaced : replaceAll url.text url.redacted.text
        (fault.words.toList ++ " for url (".toList ++ (url.text ++ [')'])) = _ :=
      replaceAll_between (colon_mem_text url) behind (by decide)
    simp only [failureText, ClientFault.on, ClientError.text, named, if_true]
    rw [List.append_assoc _ url.text, replaced, ← List.append_assoc, ← List.append_assoc,
      ← List.append_assoc]

variable {first second : Url} {request : StoreRequest}

/-- URLs that are the same without their secrets have the same errors. -/
theorem failure_on (redacted : first.redacted = second.redacted) (timeoutMs : Nat)
    (fault : ClientFault) :
    failure timeoutMs (fault.on first) = failure timeoutMs (fault.on second) := by
  rw [failure, failure, failureText_on, failureText_on, redacted]
  rfl

/-! ## Requests with different tokens -/

/-- The URLs of two requests that differ in the token are the same without their secrets. -/
theorem requestUrl_cases (request : StoreRequest) (token : String) :
    (requestUrl request = none ∧ requestUrl { request with token := token } = none) ∨
      ∃ first second, requestUrl request = some first ∧
        requestUrl { request with token := token } = some second ∧
        first.scheme = second.scheme ∧ first.host = second.host ∧
        first.redacted = second.redacted := by
  rw [requestUrl, requestUrl]
  cases Url.parse? (request.url ++ "/data").toList with
  | none => exact .inl ⟨rfl, rfl⟩
  | some url => exact .inr ⟨_, _, rfl, rfl, rfl, rfl, rfl⟩

theorem answerOf_token (redacted : first.redacted = second.redacted) (token : String)
    (status : Nat) (headers : List (String × String)) (body : Except ClientFault Payload) :
    answerOf request first status headers body =
      answerOf { request with token := token } second status headers body := by
  rw [answerOf, answerOf]
  cases statusError? status with
  | some e => rfl
  | none =>
    cases body with
    | error fault => simp only [failure_on redacted]
    | ok body => rfl

/-- If the client makes the same of two requests that differ in the token, they come to the same. -/
theorem requestBuckets_token {client : Url → Delivery} {token : String}
    (same : (requestUrl request).map client =
      (requestUrl { request with token := token }).map client) :
    requestBuckets client request = requestBuckets client { request with token := token } := by
  rcases requestUrl_cases request token with
    ⟨noFirst, noSecond⟩ | ⟨first, second, isFirst, isSecond, -, -, redacted⟩
  · rw [requestBuckets, requestBuckets, noFirst, noSecond]
  · rw [isFirst, isSecond, Option.map_some, Option.map_some, Option.some.injEq] at same
    rw [requestBuckets, requestBuckets, isFirst, isSecond]
    dsimp only
    rw [same]
    cases client second with
    | fails fault => simp only [failure_on redacted]
    | replies status headers body => exact answerOf_token redacted token status headers body

/-- Any network does the same with two requests that differ in the token, if both URLs are short
enough or neither is. -/
theorem delivery_token {token : String} (network : Network)
    (lengths : (requestUrl request).map Url.isShort =
      (requestUrl { request with token := token }).map Url.isShort) :
    (requestUrl request).map network.delivery =
      (requestUrl { request with token := token }).map network.delivery := by
  rcases requestUrl_cases request token with
    ⟨noFirst, noSecond⟩ | ⟨first, second, isFirst, isSecond, scheme, host, -⟩
  · rw [noFirst, noSecond]
  · rw [isFirst, isSecond, Option.map_some, Option.map_some, Option.some.injEq] at lengths ⊢
    rw [Network.delivery, Network.delivery, Url.isUsable, Url.isUsable, scheme, host, lengths]

/-- The token of a request shows neither in what the request comes to nor in the notices.  Take any
other token.  If the client makes the same of both requests, the results are the same to the last
letter of an error, and so are the notices.  Every network makes the same of both, but for a URL
that is too long with one token and not with the other. -/
theorem token_concealed (request : StoreRequest) (token : String) :
    (∀ client : Url → Delivery,
      (requestUrl request).map client =
        (requestUrl { request with token := token }).map client →
      requestBuckets client request = requestBuckets client { request with token := token }) ∧
    ∀ network : Network,
      (requestUrl request).map Url.isShort =
        (requestUrl { request with token := token }).map Url.isShort →
      (exchange network request).result =
          (exchange network { request with token := token }).result ∧
        (exchange network request).notices =
          (exchange network { request with token := token }).notices := by
  constructor
  · intro client same
    exact requestBuckets_token same
  · intro network lengths
    have same := requestBuckets_token (delivery_token network lengths)
    rw [exchange, exchange, same]
    exact ⟨rfl, rfl⟩

/-- A request with a password, a query and a fragment in its address. -/
def guardedRequest (token : String) : StoreRequest :=
  { url := "http://user:pw@h/x?y=5#z", token := token, batch := [], timeoutMs := 500 }

/-- Nobody listens, and two tokens lead to the same error, which shows no more than the path. -/
theorem token_concealed_refused :
    (exchange .refuses (guardedRequest "secret")).result =
        (exchange .refuses (guardedRequest "a & b")).result ∧
      (exchange .refuses (guardedRequest "secret")).result =
        .error (.http "error sending request for url (http://h/x)") := by
  have lengths : (requestUrl (guardedRequest "secret")).map Url.isShort =
      (requestUrl (guardedRequest "a & b")).map Url.isShort := by decide +kernel
  have other : { guardedRequest "secret" with token := "a & b" } = guardedRequest "a & b" := rfl
  obtain ⟨-, networks⟩ := token_concealed (guardedRequest "secret") "a & b"
  rw [other] at networks
  exact ⟨(networks .refuses lengths).1, by rfl⟩

end HttpStore

end VoxelStream
