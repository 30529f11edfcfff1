import Klsmsc.Text
import Mathlib.Data.List.Basic

/-!
# Banned words

`check_banned_words` looks for the words of up to three lists in a text: the global list, that of
a channel, and that of a routing rule of the channel for a country. The text of a list is read
from Redis when a copy of it is there, and otherwise from its table. The words are compared in
lower case.

What Redis answers is up to the surroundings, and can be different for each check of a message. The
router looks for the rules of a country under two spellings, its ISO code and its dial code.
-/

namespace Klsmsc

/-- A row of `routing_rules`. -/
structure RoutingRule where
  channelId : ℕ
  countryCode : String
  isActive : Bool
  bannedWords : Option String
  deriving DecidableEq, Repr

structure WordLists where
  globalBannedWords : Option String
  channelBannedWords : ℕ → Option String
  routingRules : List RoutingRule

inductive WordKey where
  | global
  | channel (channelId : ℕ)
  | routing (channelId : ℕ) (countryCode : String)
  deriving DecidableEq, Repr

/-- The characters of `_SPLIT_RE`. -/
def isWordSeparator (char : Char) : Bool :=
  char ∈ [',', '\n', '\r', '、', '，', '；', ';', '|']

/-- `_split_words`. -/
def splitWords (unicode : Unicode) (raw : String) : List String :=
  (((raw.toList.splitOnP isWordSeparator).map fun part =>
    strip unicode (String.ofList part)).filter (· ≠ "")).eraseDups

/-- `w.lower() in content.lower()`. -/
def containsWord (unicode : Unicode) (content word : String) : Bool :=
  textContains (unicode.lower content) (unicode.lower word)

def sameCode (unicode : Unicode) (left right : String) : Bool :=
  unicode.lower left = unicode.lower right

structure WordSource where
  unicode : Unicode
  lists : WordLists
  cached : (check : ℕ) → WordKey → Option String

namespace WordSource

variable (source : WordSource)

def rulesUnder (channelId : ℕ) (countryCode : String) : List RoutingRule :=
  source.lists.routingRules.filter fun rule =>
    rule.channelId = channelId ∧ sameCode source.unicode rule.countryCode countryCode

def stored : WordKey → Except String String
  | .global => .ok (source.lists.globalBannedWords.getD "")
  | .channel channelId => .ok ((source.lists.channelBannedWords channelId).getD "")
  | .routing channelId countryCode =>
      match source.rulesUnder channelId countryCode with
      | [] => .ok ""
      | [rule] => .ok (rule.bannedWords.getD "")
      | _ => .error "Multiple rows were found when one or none was required"

/-- `_load_global_words`, `_load_channel_words` and `_load_routing_words`. -/
def load (check : ℕ) (key : WordKey) : Except String (List String) :=
  match source.cached check key with
  | some text => .ok (splitWords source.unicode text)
  | none => (source.stored key).map (splitWords source.unicode)

def keys (channelId : Option ℕ) (countryCode : Option String) : List WordKey :=
  match channelId, countryCode with
  | none, _ => [.global]
  | some channelId, none => [.global, .channel channelId]
  | some channelId, some code =>
      let code := source.unicode.upper (strip source.unicode code)
      if code = "" then [.global, .channel channelId]
      else [.global, .channel channelId, .routing channelId code]

def loadAll (check : ℕ) : List WordKey → Except String (List String)
  | [] => .ok []
  | key :: keys => do
      let words ← source.load check key
      let others ← loadAll check keys
      return words ++ others

/-- `check_banned_words`: the first word that the text contains. -/
def checkBannedWords (check : ℕ) (content : String) (channelId : Option ℕ)
    (countryCode : Option String) : Except String (Option String) :=
  if content = "" then .ok none
  else
    (source.loadAll check (source.keys channelId countryCode)).map fun words =>
      words.find? (containsWord source.unicode content)

def Current : Prop :=
  ∀ check key text, source.cached check key = some text → source.stored key = .ok text

end WordSource

/-- `_COUNTRY_DIAL_MAP`. -/
def countryDialMap : List (String × String) :=
  [("PH", "63"), ("VN", "84"), ("ID", "62"), ("TH", "66"), ("MY", "60"),
    ("SG", "65"), ("MM", "95"), ("KH", "855"), ("LA", "856"), ("BN", "673"),
    ("CN", "86"), ("HK", "852"), ("TW", "886"), ("MO", "853"),
    ("JP", "81"), ("KR", "82"), ("IN", "91"), ("BD", "880"), ("PK", "92"),
    ("US", "1"), ("CA", "1"), ("GB", "44"), ("AU", "61"), ("NZ", "64"),
    ("DE", "49"), ("FR", "33"), ("IT", "39"), ("ES", "34"), ("BR", "55"),
    ("MX", "52"), ("RU", "7"), ("ZA", "27"), ("NG", "234"), ("KE", "254"),
    ("EG", "20"), ("SA", "966"), ("AE", "971"), ("TR", "90"), ("IL", "972"),
    ("RS", "381"), ("SK", "421")]

/-- `country_to_dial_code`. -/
def countryToDialCode (unicode : Unicode) (countryCode : String) : String :=
  (countryDialMap.lookup (unicode.upper countryCode)).getD countryCode

/-- `dial_to_country_code`. Of two countries with one dial code the later one counts. -/
def dialToCountryCode (dial : String) : String :=
  ((countryDialMap.reverse.find? fun entry => entry.2 = dial).map Prod.fst).getD dial

/-- `codes_to_try` of the router: a country code and its other spelling. -/
def codesToTry (unicode : Unicode) (countryCode : String) : List String :=
  if countryCode ≠ "" ∧ countryCode.toList.all unicode.isDigit then
    [countryCode, dialToCountryCode countryCode]
  else [countryCode, countryToDialCode unicode countryCode]

namespace WordSource

variable (source : WordSource)

def activeRules (channelId : ℕ) (countryCode : String) : List RoutingRule :=
  source.lists.routingRules.filter fun rule =>
    rule.channelId = channelId ∧ rule.isActive ∧
      (codesToTry source.unicode countryCode).any (sameCode source.unicode rule.countryCode)

def bannedWords (channelId : ℕ) (countryCode : String) : List String :=
  splitWords source.unicode (source.lists.globalBannedWords.getD "") ++
    splitWords source.unicode ((source.lists.channelBannedWords channelId).getD "") ++
      (source.activeRules channelId countryCode).flatMap fun rule =>
        splitWords source.unicode (rule.bannedWords.getD "")

end WordSource

end Klsmsc
