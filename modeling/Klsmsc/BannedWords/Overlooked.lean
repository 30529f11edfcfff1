import Klsmsc.Chunk.Undisturbed
import Klsmsc.Submission

/-!
# The words that no check sees

A message passes the two word checks of its path when none of the words that they read occurs in
it. So it is free of banned words exactly when the words that they overlook do not occur either.
On a path without a check these are all words. On the others they are the words of rules that are
stored under the other spelling of the country, and those that Redis has no current copy of.
-/

namespace Klsmsc

open Library

variable {env : EntryEnv} {check : WordCheck} {db : Db} {source : WordSource}

def Acceptance.Clean (source : WordSource) (accepted : Acceptance) : Prop :=
  ∀ word ∈ source.bannedWords accepted.channel.id accepted.countryCode,
    containsWord source.unicode accepted.finalMessage word = false

namespace WordSource

def read (source : WordSource) (accepted : Acceptance) : Except String (List String) := do
  let early ← source.loadAll 0 (source.keys none none)
  let late ← source.loadAll 1
    (source.keys (some accepted.channel.id) (some accepted.countryCode))
  return early ++ late

def Blocks (source : WordSource) (accepted : Acceptance) : Prop :=
  match source.read accepted with
  | .error _ => True
  | .ok words => ∃ word ∈ words, containsWord source.unicode accepted.finalMessage word = true

end WordSource

namespace EntryPath

def Overlooks (path : EntryPath) (source : WordSource) (accepted : Acceptance) (word : String) :
    Prop :=
  word ∈ source.bannedWords accepted.channel.id accepted.countryCode ∧
    ¬ (path.screens = true ∧ ∃ words, source.read accepted = .ok words ∧ word ∈ words)

/-- Of the messages that pass the other checks, each is blocked or holds no word that is
overlooked. -/
def Heeds (path : EntryPath) (env : EntryEnv) (source : WordSource) (db : Db) : Prop :=
  ∀ accepted ∈ path.accepted env noWordCheck db,
    (path.screens = true ∧ source.Blocks accepted) ∨
      ∀ word, path.Overlooks source accepted word →
        containsWord source.unicode accepted.finalMessage word = false

end EntryPath

structure Delivery where
  paid : Acceptance → Bool
  taken : Acceptance → Bool

def EntryPath.enqueued (path : EntryPath) (env : EntryEnv) (check : WordCheck)
    (delivery : Delivery) (db : Db) : List Acceptance :=
  (path.accepted env check db).filter fun accepted =>
    delivery.paid accepted && delivery.taken accepted

section Checks

variable {account : Account} {accepted : Acceptance}

theorem acceptMessage_iff {request : SubmitRequest} :
    acceptMessage env.toSubmitEnv account check request = .ok accepted ↔
      acceptMessage env.toSubmitEnv account noWordCheck request = .ok accepted ∧
        accepted.Passes check := by
  rw [acceptMessage_eq_ok, acceptMessage_eq_ok]
  constructor
  · rintro ⟨info, channel, senderId, number, content, routed, single, rcs, sender, isText, passes⟩
    exact ⟨⟨info, channel, senderId, number, content, routed, single, rcs, sender, isText,
      passes_noWordCheck⟩, passes⟩
  · rintro ⟨⟨info, channel, senderId, number, content, routed, single, rcs, sender, isText, -⟩,
      passes⟩
    exact ⟨info, channel, senderId, number, content, routed, single, rcs, sender, isText, passes⟩

theorem acceptRecipient_iff {input : ChunkInput} {index : ℕ} {phone : String} :
    acceptRecipient env.toSubmitEnv account check input index phone = .ok accepted ↔
      acceptRecipient env.toSubmitEnv account noWordCheck input index phone = .ok accepted ∧
        accepted.Passes check := by
  rw [acceptRecipient_eq_ok, acceptRecipient_eq_ok]
  constructor
  · rintro ⟨info, channel, senderId, number, content, routed, sender, rcs, isText, passes⟩
    exact ⟨⟨info, channel, senderId, number, content, routed, sender, rcs, isText,
      passes_noWordCheck⟩, passes⟩
  · rintro ⟨⟨info, channel, senderId, number, content, routed, sender, rcs, isText, -⟩, passes⟩
    exact ⟨info, channel, senderId, number, content, routed, sender, rcs, isText, passes⟩

theorem ne_empty_of_acceptContent {content : String} (valid : acceptContent content = .ok ()) :
    content ≠ "" := by
  intro empty
  subst empty
  cases valid


end Checks

namespace EntryPath

variable {path : EntryPath} {accepted : Acceptance}

theorem mem_accepted_iff :
    accepted ∈ path.accepted env check db ↔
      accepted ∈ path.accepted env noWordCheck db ∧
        (path.screens = true → accepted.Passes check) := by
  cases path with
  | submitSmsCore request =>
      simp only [EntryPath.accepted, screens]
      split
      · simp
      · simp only [Option.mem_toList, toOption_eq_some_iff]
        rw [acceptMessage_iff]
        simp
  | smallBatch input =>
      simp only [EntryPath.accepted, screens]
      split
      · simp
      · simp only [List.mem_filterMap, toOption_eq_some_iff]
        constructor
        · rintro ⟨entry, member, accepts⟩
          rw [acceptRecipient_iff] at accepts
          exact ⟨⟨entry, member, accepts.1⟩, fun _ => accepts.2⟩
        · rintro ⟨⟨entry, member, accepts⟩, passes⟩
          exact ⟨entry, member, acceptRecipient_iff.mpr ⟨accepts, passes trivial⟩⟩
  | processChunk input faults => simp [EntryPath.accepted, screens]
  | processBatch => simp [EntryPath.accepted]
  | buyAndSend task => simp [EntryPath.accepted, screens]

theorem ne_empty_of_mem_accepted (screened : path.screens = true)
    (member : accepted ∈ path.accepted env check db) : accepted.finalMessage ≠ "" := by
  cases path with
  | submitSmsCore request =>
      simp only [EntryPath.accepted] at member
      split at member
      · cases member
      · simp only [Option.mem_toList, toOption_eq_some_iff] at member
        rcases acceptMessage_eq_ok.mp member with ⟨info, channel, senderId, -, content, -, -, -, -,
          rfl, -⟩
        exact ne_empty_of_acceptContent content
  | smallBatch input =>
      simp only [EntryPath.accepted] at member
      split at member
      · cases member
      · simp only [List.mem_filterMap, toOption_eq_some_iff] at member
        rcases member with ⟨entry, -, accepts⟩
        rcases acceptRecipient_eq_ok.mp accepts with ⟨info, channel, senderId, -, content, -, -, -,
          rfl, -⟩
        exact ne_empty_of_acceptContent content
  | processChunk input faults => cases screened
  | processBatch => cases screened
  | buyAndSend task => cases screened

end EntryPath

section Words

variable {path : EntryPath} {accepted : Acceptance}

theorem checkBannedWords_eq_none {number : ℕ} {content : String} (some_ : content ≠ "")
    {channelId : Option ℕ} {countryCode : Option String} :
    source.checkBannedWords number content channelId countryCode = .ok none ↔
      ∃ words, source.loadAll number (source.keys channelId countryCode) = .ok words ∧
        ∀ word ∈ words, containsWord source.unicode content word = false := by
  rw [WordSource.checkBannedWords, if_neg some_]
  cases source.loadAll number (source.keys channelId countryCode) with
  | error error => simp [Except.map]
  | ok words => simp [Except.map, List.find?_eq_none]

theorem passes_iff_not_blocks (some_ : accepted.finalMessage ≠ "") :
    accepted.Passes source.checkBannedWords ↔ ¬ source.Blocks accepted := by
  rw [Acceptance.Passes, checkBannedWords_eq_none some_, checkBannedWords_eq_none some_,
    WordSource.Blocks, WordSource.read]
  cases source.loadAll 0 (source.keys none none) with
  | error error => simp [bind, Except.bind]
  | ok early =>
      cases source.loadAll 1
          (source.keys (some accepted.channel.id) (some accepted.countryCode)) with
      | error error => simp [bind, Except.bind]
      | ok late => simp [bind, Except.bind, pure, Except.pure, or_imp, forall_and]

theorem clean_iff (some_ : path.screens = true → accepted.finalMessage ≠ "") :
    ((path.screens = true → accepted.Passes source.checkBannedWords) → accepted.Clean source) ↔
      (path.screens = true ∧ source.Blocks accepted) ∨
        ∀ word, path.Overlooks source accepted word →
          containsWord source.unicode accepted.finalMessage word = false := by
  by_cases blocked : path.screens = true ∧ source.Blocks accepted
  · refine iff_of_true ?_ (Or.inl blocked)
    intro passes
    exact absurd blocked.2 ((passes_iff_not_blocks (some_ blocked.1)).mp (passes blocked.1))
  · have passes : path.screens = true → accepted.Passes source.checkBannedWords := by
      intro screened
      rw [passes_iff_not_blocks (some_ screened)]
      exact fun blocks => blocked ⟨screened, blocks⟩
    have unread : path.screens = true → ∀ words, source.read accepted = .ok words →
        ∀ word ∈ words, containsWord source.unicode accepted.finalMessage word = false := by
      intro screened words isRead word member
      have clear : ¬ source.Blocks accepted := fun blocks => blocked ⟨screened, blocks⟩
      rw [WordSource.Blocks, isRead] at clear
      by_contra occurs
      exact clear ⟨word, member, by simpa using occurs⟩
    constructor
    · intro clean
      refine Or.inr ?_
      intro word overlooked
      exact clean passes word overlooked.1
    · rintro (blocks | overlooked) _ word banned
      · exact absurd blocks blocked
      · by_cases read : path.screens = true ∧
          ∃ words, source.read accepted = .ok words ∧ word ∈ words
        · rcases read with ⟨screened, words, isRead, member⟩
          exact unread screened words isRead word member
        · exact overlooked word ⟨banned, read⟩

theorem mem_of_loadAll (current : source.Current) {number : ℕ} {keys : List WordKey} {key : WordKey}
    (member : key ∈ keys) {words : List String} (isLoaded : source.loadAll number keys = .ok words) :
    ∃ text, source.stored key = .ok text ∧
      ∀ word ∈ splitWords source.unicode text, word ∈ words := by
  induction keys generalizing words with
  | nil => cases member
  | cons first keys ih =>
      simp only [WordSource.loadAll, bind_eq_ok_iff] at isLoaded
      rcases isLoaded with ⟨own, isOwn, others, isOthers, both⟩
      cases both
      rcases List.mem_cons.mp member with rfl | later
      · rw [WordSource.load] at isOwn
        cases copy : source.cached number key with
        | some text =>
            rw [copy] at isOwn
            cases isOwn
            exact ⟨text, current number key text copy, fun word => List.mem_append_left _⟩
        | none =>
            rw [copy] at isOwn
            cases stored : source.stored key with
            | error error =>
                rw [stored] at isOwn
                cases isOwn
            | ok text =>
                rw [stored] at isOwn
                cases isOwn
                exact ⟨text, rfl, fun word => List.mem_append_left _⟩
      · rcases ih later isOthers with ⟨text, stored, listed⟩
        exact ⟨text, stored, fun word inText => List.mem_append_right _ (listed word inText)⟩

theorem overlooks_of_current (current : source.Current) (screened : path.screens = true)
    {words : List String} (isRead : source.read accepted = .ok words) {word : String}
    (overlooked : path.Overlooks source accepted word) :
    ∃ rule ∈ source.activeRules accepted.channel.id accepted.countryCode,
      word ∈ splitWords source.unicode (rule.bannedWords.getD "") ∧
        let code := source.unicode.upper (strip source.unicode accepted.countryCode)
        code = "" ∨ rule ∉ source.rulesUnder accepted.channel.id code := by
  rcases overlooked with ⟨banned, unread⟩
  have notRead : word ∉ words := fun member => unread ⟨screened, words, isRead, member⟩
  simp only [WordSource.read, bind_eq_ok_iff] at isRead
  rcases isRead with ⟨early, isEarly, late, isLate, both⟩
  cases both
  have listed : ∀ key ∈ source.keys (some accepted.channel.id) (some accepted.countryCode),
      ∃ text, source.stored key = .ok text ∧ word ∉ splitWords source.unicode text := by
    intro key member
    rcases mem_of_loadAll current member isLate with ⟨text, stored, inLate⟩
    refine ⟨text, stored, ?_⟩
    intro inText
    exact notRead (List.mem_append_right _ (inLate word inText))
  simp only [WordSource.bannedWords, List.mem_append, List.mem_flatMap] at banned
  rcases banned with (inGlobal | inChannel) | ⟨rule, active, inRule⟩
  · rcases listed .global (by simp only [WordSource.keys]; split <;> simp) with ⟨text, stored, free⟩
    cases stored
    exact absurd inGlobal free
  · rcases listed (.channel accepted.channel.id)
      (by simp only [WordSource.keys]; split <;> simp) with ⟨text, stored, free⟩
    cases stored
    exact absurd inChannel free
  · refine ⟨rule, active, inRule, ?_⟩
    by_cases blank : source.unicode.upper (strip source.unicode accepted.countryCode) = ""
    · exact Or.inl blank
    · refine Or.inr ?_
      intro under
      rcases listed (.routing accepted.channel.id
          (source.unicode.upper (strip source.unicode accepted.countryCode)))
        (by simp [WordSource.keys, blank]) with ⟨text, stored, free⟩
      rw [WordSource.stored] at stored
      split at stored
      · rename_i none_
        rw [none_] at under
        cases under
      · rename_i only isOnly
        rw [isOnly] at under
        cases List.mem_singleton.mp under
        cases stored
        exact free inRule
      · cases stored

end Words

/-- No message with a banned word is enqueued if and only if the messages that pass the other checks
are blocked or hold no word that the checks of their path overlook. -/
theorem no_banned_word_enqueued_iff (path : EntryPath) (env : EntryEnv) (source : WordSource)
    (db : Db) :
    (∀ delivery, ∀ accepted ∈ path.enqueued env source.checkBannedWords delivery db,
        accepted.Clean source) ↔ path.Heeds env source db := by
  have each : (∀ delivery, ∀ accepted ∈ path.enqueued env source.checkBannedWords delivery db,
      accepted.Clean source) ↔
        ∀ accepted ∈ path.accepted env source.checkBannedWords db, accepted.Clean source := by
    constructor
    · intro clean accepted member
      apply clean ⟨fun _ => true, fun _ => true⟩
      simpa [EntryPath.enqueued] using member
    · intro clean delivery accepted member
      exact clean accepted (List.mem_of_mem_filter member)
  rw [each, EntryPath.Heeds]
  refine forall_congr' fun accepted => ?_
  rw [EntryPath.mem_accepted_iff]
  constructor
  · intro clean member
    refine (clean_iff fun screened => ?_).mp fun passes => clean ⟨member, passes⟩
    exact EntryPath.ne_empty_of_mem_accepted screened member
  · intro heeds member
    refine (clean_iff fun screened => ?_).mpr (heeds member.1) member.2
    exact EntryPath.ne_empty_of_mem_accepted screened member.1

def EntryEnv.plain : EntryEnv where
  toChunkEnv := .plain (.plain .smpp) 100
  rcsErrorCode _ := ""
  activeSenderIds _ _ := []
  resolves := by
    intro channelId countryCode requested
    by_cases wanted : strip .ascii requested = ""
    · simp [resolveSender, ChunkEnv.plain, wanted, Except.toOption]
    · simp [resolveSender, ChunkEnv.plain, wanted, Except.toOption]
  number _ := none
  dialCode code := code
  pinnedChannel _ := none
  boundChannel _ := none

/-- The word `casino` is banned everywhere, and `loan` by a rule under the dial code 86. -/
def casinoSource : WordSource where
  unicode := .ascii
  lists := ⟨some "Casino, poker", fun _ => none, [⟨1, "86", true, some "loan"⟩]⟩
  cached _ _ := none

def elevenCasinos : ChunkInput :=
  { ChunkInput.plain (List.replicate 11 "+8613800138000") none with message := "visit our CASINO" }

def loanMessage : SubmitRequest where
  accountId := 1
  phoneNumber := "+8613800138000"
  message := "a cheap loan"
  channelId := none
  senderId := none

/-- A batch of eleven numbers is sent with a word of the global list, and a message with the word of
a rule that is stored under the dial code. -/
theorem banned_word_enqueued :
    (∃ path ∈ sendBatchPaths elevenCasinos false .never,
      ∃ delivery, ∃ accepted ∈ path.enqueued .plain casinoSource.checkBannedWords delivery
        (.plain 100000 (.plain .smpp) []), ¬ accepted.Clean casinoSource) ∧
    ((chunkTables EntryEnv.plain.toChunkEnv .never elevenCasinos
        (.plain 100000 (.plain .smpp) [])).smsLogs.countP fun row =>
          row.message = "visit our CASINO" ∧ row.sellingPrice = some 100) = 11 ∧
    ∃ delivery, ∃ accepted ∈ (EntryPath.submitSmsCore loanMessage).enqueued .plain
      casinoSource.checkBannedWords delivery (.plain 100000 (.plain .smpp) []),
        ¬ accepted.Clean casinoSource := by
  refine ⟨⟨.processChunk elevenCasinos .never, ?_, ⟨fun _ => true, fun _ => true⟩,
    ⟨.plain .smpp, "+8613800138000", "CN", none, "visit our CASINO"⟩, ?_, ?_⟩, ?_,
    ⟨fun _ => true, fun _ => true⟩,
    ⟨.plain .smpp, "+8613800138000", "CN", none, "a cheap loan"⟩, ?_, ?_⟩
  · exact List.mem_singleton.mpr rfl
  · decide
  · intro clean
    have word := clean "Casino" (by decide)
    revert word
    decide
  · decide
  · decide
  · intro clean
    have word := clean "loan" (by decide)
    revert word
    decide

end Klsmsc
