import Klsmsc.Sms.ShortLink

/-!
# Where short links lead

`generate_short_link` looks for a token under the group of a placeholder or under the message, and
mints a new one when there is none; a token leads where its Redis key or its row says.
`replace_track_url_in_message` takes target, base and group from the first placeholder and writes
the one link in place of all of them.

The store is what Redis and the table hold when a call begins, after any calls before it and with
any keys expired. The address check of a target and the failover of a domain are parameters, and so
is what `re.sub` makes of a template with a backslash, which may be an error; what it is known to do
is to copy the letters and digits behind a slash.
-/

namespace Klsmsc.Sms

/-- The tokens that `_gen_token` draws, or drew when they were shorter. -/
abbrev LinkToken : Type :=
  { token : Text // token ≠ [] ∧ ∀ char ∈ token, char ∈ base62 }

/-- A row of `short_link_logs`. -/
structure LinkRow where
  token : LinkToken
  smsLogId : ℕ
  originalUrl : Text
  deriving DecidableEq, Repr

/-- The table and the keys `sl:t:`, `sl:s:` and `sl:share:` of Redis. -/
structure LinkStore where
  rows : List LinkRow
  tokenKeys : LinkToken → Option Text
  smsLogKeys : ℕ → Option LinkToken
  shareKeys : Text → Option LinkToken

structure LinkEnv where
  unicode : Unicode
  resolveEffectiveBase : Text → Text
  validateRedirectTargetUrl : Text → Bool
  expand : Text → Option Text → Option Text
  expand_append : ∀ base inner (token : LinkToken),
    expand (base ++ '/' :: token.val) inner =
      (expand (base ++ ['/']) inner).map fun text => text ++ token.val

/-- `_normalize_target_url`, where the empty text stands for a target that is refused. -/
def normalizeTargetUrl (env : LinkEnv) (url : Text) : Text :=
  let bare := strip env.unicode url
  let lowered := (env.unicode.lower (String.ofList bare)).toList
  if bare.isEmpty then []
  else
    let full :=
      if List.isPrefixOf "http://".toList lowered ∨ List.isPrefixOf "https://".toList lowered then
        bare
      else "https://".toList ++ bare.dropWhile fun char => char = '/'
    if env.validateRedirectTargetUrl full then full else []

/-- The arguments of `replace_track_url_in_message`, with the tokens that would be drawn. -/
structure LinkCall where
  smsLogId : ℕ
  message : Text
  baseUrl : Text
  defaultTargetUrl : Text
  candidates : List LinkToken
  deriving DecidableEq, Repr

/-- `_GROUP_RE.search`: group 1 of the first match. -/
def searchGroup : Text → Option Text
  | [] => none
  | char :: text =>
      match List.isPrefixOf ['|', 'g', '='] (char :: text),
          (text.drop 2).takeWhile (fun other => other ≠ '|' ∧ other ≠ '\x7d') with
      | true, first :: group => some (first :: group)
      | _, _ => searchGroup text

/-- `extract_track_group`, where an empty group is none. -/
def extractTrackGroup (unicode : Unicode) (message : Text) : Option Text :=
  match firstPlaceholder (pieces message) with
  | none => none
  | some inner =>
      ((searchGroup (inner.getD [])).map (strip unicode)).filter fun group => !group.isEmpty

namespace LinkStore

/-- `_redis_get`, where an empty value is none. -/
def redisGet (value : Option Text) : Option Text :=
  value.filter fun text => !text.isEmpty

variable (store : LinkStore)

/-- `get_original_url_by_token`. -/
def originalUrl (token : LinkToken) : Option Text :=
  (redisGet (store.tokenKeys token)).or
    ((store.rows.find? fun row => row.token = token).map LinkRow.originalUrl)

/-- `SET sl:t:token`. -/
def setToken (token : LinkToken) (url : Text) : LinkStore :=
  { store with tokenKeys := Function.update store.tokenKeys token (some url) }

/-- `SET sl:s:smsLogId`. -/
def setSmsLog (smsLogId : ℕ) (token : LinkToken) : LinkStore :=
  { store with smsLogKeys := Function.update store.smsLogKeys smsLogId (some token) }

/-- `SET sl:share:group`. -/
def setShare (group : Text) (token : LinkToken) : LinkStore :=
  { store with shareKeys := Function.update store.shareKeys group (some token) }

/-- `INSERT INTO short_link_logs`. -/
def insertRow (row : LinkRow) : LinkStore :=
  { store with rows := store.rows ++ [row] }

/-- `_mint_token`: the first token drawn that is neither in Redis nor in the table. The Redis key
that was claimed for a token of the table is deleted again. -/
def mintToken (smsLogId : ℕ) (url : Text) : List LinkToken → Option (LinkToken × LinkStore)
  | [] => none
  | token :: candidates =>
      if (store.tokenKeys token).isSome then mintToken smsLogId url candidates
      else if store.rows.any fun row => row.token = token then
        mintToken smsLogId url candidates
      else some (token, (store.setToken token url).insertRow ⟨token, smsLogId, url⟩)

/-- `generate_short_link` for a group: the token of the group. -/
def sharedLink (smsLogId : ℕ) (url group : Text) (candidates : List LinkToken) :
    Option (LinkToken × LinkStore) :=
  match store.shareKeys group with
  | some token => some (token, store)
  | none =>
      (store.mintToken smsLogId url candidates).map fun minted =>
        (minted.1, minted.2.setShare group minted.1)

/-- `generate_short_link` for a single message: the token of the message. -/
def ownLink (smsLogId : ℕ) (url : Text) (candidates : List LinkToken) :
    Option (LinkToken × LinkStore) :=
  match store.smsLogKeys smsLogId with
  | some token => some (token, store)
  | none =>
      match store.rows.filter fun row => row.smsLogId = smsLogId with
      | [] =>
          (store.mintToken smsLogId url candidates).map fun minted =>
            (minted.1, minted.2.setSmsLog smsLogId minted.1)
      | [row] => some (row.token, (store.setSmsLog smsLogId row.token).setToken row.token url)
      | _ => none

/-- `generate_short_link`: the token, unless an exception is raised. Five tokens are drawn at
most. -/
def generateShortLink (smsLogId : ℕ) (url : Text) (shareKey : Option Text)
    (candidates : List LinkToken) : Option (LinkToken × LinkStore) :=
  match shareKey with
  | some group => store.sharedLink smsLogId url group (candidates.take 5)
  | none => store.ownLink smsLogId url (candidates.take 5)

def keptToken (smsLogId : ℕ) : Option Text → Option LinkToken
  | some group => store.shareKeys group
  | none => store.smsLogKeys smsLogId

end LinkStore

section

variable (env : LinkEnv) (store : LinkStore) (call : LinkCall)

/-- The target that is written in a placeholder, as `extract_placeholder_parts` reads it. -/
def LinkCall.targetIn (inner : Option Text) : Text :=
  let embedded := strip env.unicode (inner.getD [])
  let plain := if embedded.isEmpty then [] else plainParts env.unicode embedded
  normalizeTargetUrl env (partOr plain 0 call.defaultTargetUrl)

def LinkCall.placeholders : List (Option Text) :=
  (pieces call.message).filterMap fun piece =>
    match piece with
    | .literal _ => none
    | .placeholder inner => some inner

/-- What `re.sub` writes for a placeholder, with a link as the template. -/
def writtenFor (link : Text × LinkToken) (inner : Option Text) : Option Text :=
  if '\\' ∈ shortUrl link.1 link.2.val then env.expand (shortUrl link.1 link.2.val) inner
  else some (shortUrl link.1 link.2.val)

structure LinkResult where
  link : Option (Text × LinkToken)
  store : LinkStore

/-- The result with its link, unless `re.sub` raises an exception for one of the placeholders. -/
def LinkCall.substitute (link : Text × LinkToken) (after : LinkStore) : Option LinkResult :=
  if call.placeholders.all fun inner => (writtenFor env link inner).isSome then
    some ⟨some link, after⟩
  else none

/-- `replace_track_url_in_message`, unless an exception is raised. -/
def linkFor : Option LinkResult :=
  match extractPlaceholderParts env.unicode call.message call.defaultTargetUrl call.baseUrl with
  | none => some ⟨none, store⟩
  | some (targetUrl, baseUrl) =>
      let target := normalizeTargetUrl env targetUrl
      if target.isEmpty then some ⟨none, store⟩
      else
        (store.generateShortLink call.smsLogId target (extractTrackGroup env.unicode call.message)
          call.candidates).bind fun generated =>
            call.substitute env (env.resolveEffectiveBase baseUrl, generated.1) generated.2

def LinkResult.text (result : LinkResult) : Text :=
  match result.link with
  | none => call.message
  | some link => subTrackUrl (fun inner => (writtenFor env link inner).getD []) call.message

/-- Every placeholder has become a link as it is, and the link leads to the target of this
placeholder. -/
def LinkResult.ResolvesEach (result : LinkResult) : Prop :=
  ∀ inner ∈ call.placeholders, ∃ link, result.link = some link ∧
    writtenFor env link inner = some (shortUrl link.1 link.2.val) ∧
      result.store.originalUrl link.2 = some (call.targetIn env inner)

def LinkCall.effectiveBase : Text :=
  rstripSlash (env.resolveEffectiveBase
    (sentBase env.unicode call.message call.defaultTargetUrl call.baseUrl))

/-- All placeholders name one target, a token that is kept for the call leads there, and a
backslash in the base starts no escape. -/
structure LinkCall.Uniform : Prop where
  oneTarget : ∀ first ∈ call.placeholders, ∀ second ∈ call.placeholders,
    call.targetIn env first = call.targetIn env second
  kept : ∀ inner ∈ call.placeholders, ∀ token,
    store.keptToken call.smsLogId (extractTrackGroup env.unicode call.message) = some token →
      store.originalUrl token = some (call.targetIn env inner)
  literal : ∀ inner ∈ call.placeholders, '\\' ∈ call.effectiveBase env →
    env.expand (call.effectiveBase env ++ ['/']) inner = some (call.effectiveBase env ++ ['/'])

end

namespace LinkStore

theorem originalUrl_of_tokenKeys {store : LinkStore} {token : LinkToken} {url : Text}
    (kept : url ≠ []) (key : store.tokenKeys token = some url) :
    store.originalUrl token = some url := by
  have visible : redisGet (some url) = some url := by simp [redisGet, kept]
  rw [originalUrl, key, visible, Option.some_or]

theorem tokenKeys_mintToken {store : LinkStore} {smsLogId : ℕ} {url : Text}
    {candidates : List LinkToken} {minted : LinkToken × LinkStore}
    (drawn : store.mintToken smsLogId url candidates = some minted) :
    minted.2.tokenKeys minted.1 = some url := by
  induction candidates with
  | nil => cases drawn
  | cons candidate candidates ih =>
      rw [mintToken] at drawn
      split at drawn
      · exact ih drawn
      · split at drawn
        · exact ih drawn
        · cases drawn
          exact Function.update_self ..

theorem generateShortLink_of_kept {store : LinkStore} {smsLogId : ℕ} {url : Text}
    {shareKey : Option Text} {candidates : List LinkToken} {token : LinkToken}
    (kept : store.keptToken smsLogId shareKey = some token) :
    store.generateShortLink smsLogId url shareKey candidates = some (token, store) := by
  cases shareKey with
  | none =>
      rw [keptToken] at kept
      rw [generateShortLink, ownLink, kept]
  | some group =>
      rw [keptToken] at kept
      rw [generateShortLink, sharedLink, kept]

theorem tokenKeys_generateShortLink {store : LinkStore} {smsLogId : ℕ} {url : Text}
    {shareKey : Option Text} {candidates : List LinkToken} {token : LinkToken} {after : LinkStore}
    (fresh : store.keptToken smsLogId shareKey = none)
    (generated : store.generateShortLink smsLogId url shareKey candidates = some (token, after)) :
    after.tokenKeys token = some url := by
  cases shareKey with
  | none =>
      rw [keptToken] at fresh
      simp only [generateShortLink, ownLink, fresh] at generated
      split at generated
      · rcases Option.map_eq_some_iff.mp generated with ⟨minted, drawn, same⟩
        cases same
        have claimed := tokenKeys_mintToken drawn
        exact claimed
      · cases generated
        exact Function.update_self ..
      · cases generated
  | some group =>
      rw [keptToken] at fresh
      simp only [generateShortLink, sharedLink, fresh] at generated
      rcases Option.map_eq_some_iff.mp generated with ⟨minted, drawn, same⟩
      cases same
      have claimed := tokenKeys_mintToken drawn
      exact claimed

end LinkStore

theorem firstPlaceholder_eq_head? (found : List Piece) :
    firstPlaceholder found = (found.filterMap fun piece =>
      match piece with
      | .literal _ => none
      | .placeholder inner => some inner).head? := by
  induction found with
  | nil => rfl
  | cons piece found ih =>
      cases piece with
      | literal char => simpa [firstPlaceholder] using ih
      | placeholder inner => rfl

theorem backslash_mem_shortUrl (base : Text) (token : LinkToken) :
    '\\' ∈ shortUrl base token.val ↔ '\\' ∈ rstripSlash base := by
  have plain : '\\' ∉ token.val := by
    intro member
    exact absurd (token.property.2 _ member) (by decide)
  simp [shortUrl, plain]

theorem writtenFor_eq_iff (env : LinkEnv) (base : Text) (token : LinkToken)
    (inner : Option Text) :
    writtenFor env (base, token) inner = some (shortUrl base token.val) ↔
      ('\\' ∈ rstripSlash base →
        env.expand (rstripSlash base ++ ['/']) inner = some (rstripSlash base ++ ['/'])) := by
  rw [writtenFor]
  by_cases escaped : '\\' ∈ rstripSlash base
  · rw [if_pos ((backslash_mem_shortUrl base token).mpr escaped), shortUrl, env.expand_append,
      Option.map_eq_some_iff]
    constructor
    · rintro ⟨text, expanded, same⟩ _
      have ends : text ++ token.val = (rstripSlash base ++ ['/']) ++ token.val := by
        simpa using same
      rw [expanded, List.append_cancel_right ends]
    · intro literal
      exact ⟨_, literal escaped, by simp⟩
  · rw [if_neg ((backslash_mem_shortUrl base token).not.mpr escaped)]
    simp [escaped]

theorem eq_of_substitute {env : LinkEnv} {call : LinkCall} {link : Text × LinkToken}
    {after : LinkStore} {result : LinkResult}
    (substituted : call.substitute env link after = some result) :
    result = ⟨some link, after⟩ := by
  rw [LinkCall.substitute] at substituted
  split at substituted
  · exact (Option.some.inj substituted).symm
  · cases substituted

theorem linkFor_of_placeholder {env : LinkEnv} {store : LinkStore} {call : LinkCall}
    {result : LinkResult} (returned : linkFor env store call = some result) {inner : Option Text}
    {others : List (Option Text)} (placeholders : call.placeholders = inner :: others)
    (admissible : (call.targetIn env inner).isEmpty = false) :
    ∃ base token, result.link = some (base, token) ∧
      rstripSlash base = call.effectiveBase env ∧
      store.generateShortLink call.smsLogId (call.targetIn env inner)
        (extractTrackGroup env.unicode call.message) call.candidates =
          some (token, result.store) := by
  have first : firstPlaceholder (pieces call.message) = some inner := by
    rw [firstPlaceholder_eq_head?]
    exact congrArg List.head? placeholders
  rw [LinkCall.targetIn] at admissible ⊢
  rw [LinkCall.effectiveBase, sentBase]
  simp only [linkFor, extractPlaceholderParts, first] at returned ⊢
  generalize partOr _ 0 call.defaultTargetUrl = targetUrl at returned admissible ⊢
  have written : targetUrl.isEmpty = false := by
    cases targetUrl with
    | nil => exact admissible
    | cons char rest => rfl
  simp only [written, Bool.false_eq_true, if_false, admissible] at returned ⊢
  rcases Option.bind_eq_some_iff.mp returned with ⟨generated, drawn, substituted⟩
  rw [eq_of_substitute substituted]
  exact ⟨_, _, rfl, rfl, drawn⟩

/-- Each placeholder becomes a link to its own target, written as it is, exactly when all of them
name one target, a token that Redis keeps for the call already leads there, and no backslash in
the base is taken for an escape. -/
theorem resolvesEach_iff_uniform (env : LinkEnv) (store : LinkStore) (call : LinkCall)
    (admissible : ∀ inner ∈ call.placeholders, (call.targetIn env inner).isEmpty = false)
    (result : LinkResult) (returned : linkFor env store call = some result) :
    result.ResolvesEach env call ↔ call.Uniform env store := by
  cases placeholders : call.placeholders with
  | nil =>
      have noneIn : ∀ inner, inner ∉ call.placeholders := by simp [placeholders]
      constructor
      · intro _
        exact ⟨fun first member => (noneIn first member).elim,
          fun inner member => (noneIn inner member).elim,
          fun inner member => (noneIn inner member).elim⟩
      · intro _ inner member
        exact (noneIn inner member).elim
  | cons head others =>
      have headIn : head ∈ call.placeholders := by simp [placeholders]
      obtain ⟨base, token, linked, sameBase, generated⟩ :=
        linkFor_of_placeholder returned placeholders (admissible head headIn)
      constructor
      · intro resolves
        have own : ∀ inner ∈ call.placeholders,
            writtenFor env (base, token) inner = some (shortUrl base token.val) ∧
              result.store.originalUrl token = some (call.targetIn env inner) := by
          intro inner member
          obtain ⟨link, same, written, leads⟩ := resolves inner member
          cases linked.symm.trans same
          exact ⟨written, leads⟩
        refine ⟨?_, ?_, ?_⟩
        · intro first firstIn second secondIn
          exact Option.some.inj ((own first firstIn).2.symm.trans (own second secondIn).2)
        · intro inner member kept found
          rw [LinkStore.generateShortLink_of_kept found] at generated
          cases generated
          exact (own inner member).2
        · intro inner member
          rw [← sameBase]
          exact (writtenFor_eq_iff env base token inner).mp (own inner member).1
      · intro uniform inner member
        refine ⟨(base, token), linked, ?_, ?_⟩
        · have literal := uniform.literal inner member
          rw [← sameBase] at literal
          exact (writtenFor_eq_iff env base token inner).mpr literal
        · cases kept : store.keptToken call.smsLogId
            (extractTrackGroup env.unicode call.message) with
          | none =>
              have target := admissible head headIn
              rw [uniform.oneTarget head headIn inner member] at generated target
              exact LinkStore.originalUrl_of_tokenKeys (by simpa using target)
                (LinkStore.tokenKeys_generateShortLink kept generated)
          | some found =>
              rw [LinkStore.generateShortLink_of_kept kept] at generated
              cases generated
              exact uniform.kept inner member _ kept

theorem text_eq_replaceTrackUrlInMessage {env : LinkEnv} {store : LinkStore} {call : LinkCall}
    {result : LinkResult} (healthy : ∀ base, env.resolveEffectiveBase base = base)
    (returned : linkFor env store call = some result) :
    ∃ token, result.text env call =
      replaceTrackUrlInMessage env.unicode (normalizeTargetUrl env)
        (fun link inner => (env.expand link inner).getD []) call.message call.baseUrl
        call.defaultTargetUrl token := by
  rw [linkFor] at returned
  cases parts : extractPlaceholderParts env.unicode call.message call.defaultTargetUrl
    call.baseUrl with
  | none =>
      simp only [parts, Option.some.injEq] at returned
      refine ⟨[], ?_⟩
      rw [← returned, LinkResult.text, replaceTrackUrlInMessage, parts]
  | some found =>
      simp only [parts] at returned
      split at returned
      · rename_i refused
        cases returned
        refine ⟨[], ?_⟩
        simp only [LinkResult.text, replaceTrackUrlInMessage, parts]
        rw [if_pos refused]
      · rename_i accepted
        rcases Option.bind_eq_some_iff.mp returned with ⟨generated, _, substituted⟩
        rw [eq_of_substitute substituted]
        refine ⟨generated.1.val, ?_⟩
        simp only [LinkResult.text, replaceTrackUrlInMessage, parts, healthy]
        rw [if_neg accepted]
        congr 1
        funext inner
        rw [writtenFor, writeTemplate]
        split <;> rfl

def LinkStore.empty : LinkStore where
  rows := []
  tokenKeys _ := none
  smsLogKeys _ := none
  shareKeys _ := none

def openEnv : LinkEnv where
  unicode := Unicode.ascii
  resolveEffectiveBase := id
  validateRedirectTargetUrl _ := true
  expand link _ := some link
  expand_append := by simp

theorem mem_base62_of_all {token : Text}
    (checked : (token.all fun char => char ∈ base62) = true) : ∀ char ∈ token, char ∈ base62 :=
  fun char member => of_decide_eq_true (List.all_eq_true.mp checked char member)

def drawnToken : LinkToken :=
  ⟨"AbCdEf01".toList, by decide, mem_base62_of_all (by decide)⟩

def oneLink : LinkCall where
  smsLogId := 1
  message := "see \x7b\x7bTRACK_URL=a.com|s.cc/s|g=u\x7d\x7d".toList
  baseUrl := fallbackBase
  defaultTargetUrl := []
  candidates := [drawnToken]

def twoLinks : LinkCall :=
  { oneLink with
    message := "\x7b\x7bTRACK_URL=a.com\x7d\x7d or \x7b\x7bTRACK_URL=b.com\x7d\x7d".toList }

def firstLink (call : LinkCall) : LinkResult :=
  (linkFor openEnv LinkStore.empty call).getD ⟨none, LinkStore.empty⟩

theorem linkFor_firstLink {call : LinkCall}
    (returns : (linkFor openEnv LinkStore.empty call).isSome = true) :
    linkFor openEnv LinkStore.empty call = some (firstLink call) := by
  obtain ⟨result, returned⟩ := Option.isSome_iff_exists.mp returns
  rw [firstLink, returned, Option.getD_some]

theorem resolvesEach_iff_uniform_oneLink :
    linkFor openEnv LinkStore.empty oneLink = some (firstLink oneLink) ∧
    (firstLink oneLink).text openEnv oneLink = "see s.cc/s/AbCdEf01".toList ∧
    ((firstLink oneLink).ResolvesEach openEnv oneLink ↔
      oneLink.Uniform openEnv LinkStore.empty) := by
  have returned : linkFor openEnv LinkStore.empty oneLink = some (firstLink oneLink) :=
    linkFor_firstLink (by decide)
  exact ⟨returned, by decide,
    resolvesEach_iff_uniform openEnv LinkStore.empty oneLink (by decide)
      (firstLink oneLink) returned⟩

/-- Both placeholders become the link to the first target. -/
theorem second_target_unreached :
    ∃ result, linkFor openEnv LinkStore.empty twoLinks = some result ∧
      result.text openEnv twoLinks =
        fallbackBase ++ "/AbCdEf01 or ".toList ++ fallbackBase ++ "/AbCdEf01".toList ∧
      result.store.originalUrl drawnToken = some "https://a.com".toList ∧
      twoLinks.placeholders.map (twoLinks.targetIn openEnv) =
        ["https://a.com".toList, "https://b.com".toList] ∧
      ¬ result.ResolvesEach openEnv twoLinks := by
  have targets : twoLinks.placeholders.map (twoLinks.targetIn openEnv) =
      ["https://a.com".toList, "https://b.com".toList] := by decide
  have returned : linkFor openEnv LinkStore.empty twoLinks = some (firstLink twoLinks) :=
    linkFor_firstLink (by decide)
  refine ⟨firstLink twoLinks, returned, by decide, by decide, targets, ?_⟩
  intro resolves
  have target : (firstLink twoLinks).store.originalUrl drawnToken =
      some "https://a.com".toList := by decide
  have link : (firstLink twoLinks).link = some (fallbackBase, drawnToken) := by
    decide
  obtain ⟨written, same, _, leads⟩ := resolves (some "b.com".toList) (by decide)
  cases link.symm.trans same
  exact absurd (target.symm.trans leads) (by decide)

end Klsmsc.Sms
