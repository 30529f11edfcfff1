import Klsmsc.CountryCode
import Klsmsc.Dlr.Receipts
import Klsmsc.Library.Runs
import Klsmsc.Tables

/-!
# Invitation codes

`activate_code` opens an account for an invitation code. Its session reads the code, makes up a name
for the account from the names that it reads, inserts the account, looks for the user of the
messenger, and commits everything with the code marked as used. All of this is read without a lock,
each time from the tables as they are or as they were when the call began, depending on the
isolation of the database; what another session has not committed is never seen.

The prices and channels of the account, its bindings, its data account and its secrets are left out.
-/

namespace Klsmsc

open Library

/-- The column `invitation_codes.status`. -/
inductive InviteStatus where
  | unused
  | used
  | expired
  deriving DecidableEq, Repr

/-- The keys of `pricing_config`. -/
structure PricingConfig where
  businessType : Option String
  country : Option String
  templateId : Option ℕ
  price : Option Money
  deriving DecidableEq, Repr

/-- A row of `invitation_codes`. -/
structure InvitationCode where
  code : String
  salesId : ℕ
  pricingConfig : PricingConfig
  status : InviteStatus
  usedByAccountId : Option ℕ
  expiresAt : Option ℕ
  usedAt : Option ℕ
  deriving DecidableEq, Repr

/-- A row of `accounts`, as it is opened. -/
structure OpenedAccount where
  id : ℕ
  accountName : String
  salesId : ℕ
  balance : Money
  businessType : String
  services : List String
  countryCode : Option String
  unitPrice : Money
  tgId : ℕ
  deriving DecidableEq, Repr

/-- The row of `balance_logs` for the balance that an account starts with. -/
structure OpeningCredit where
  accountId : ℕ
  amount : Money
  balanceAfter : Money
  description : String
  deriving DecidableEq, Repr

structure InvitationTables where
  codes : (code : String) → Option InvitationCode
  accounts : List OpenedAccount
  credits : List OpeningCredit
  telegramUsers : (tgId : ℕ) → Option ℕ

/-- What an activation reads elsewhere: the names of the sales staff, whether a price is below the
floor of its template, and what `LIKE` finds for a beginning. -/
structure InvitationEnv where
  unicode : Unicode
  adminUsername : (salesId : ℕ) → Option String
  belowFloor : PricingConfig → Bool
  like : (start name : String) → Bool
  like_append : ∀ start rest, like start (start ++ rest) = true

/-! ### The name of an account -/

/-- `re.search(r'\d+$', text)`, empty where nothing is found. -/
def trailingDigits (unicode : Unicode) (text : String) : String :=
  let chars := text.toList
  let line := if chars.getLast? = some '\n' then chars.dropLast else chars
  String.ofList (line.reverse.takeWhile unicode.isDecimal).reverse

/-- `text.zfill(3)` of digits. -/
def zfill3 (digits : List Char) : String :=
  String.ofList (List.replicate (3 - digits.length) '0' ++ digits)

/-- `get_dial_code`. -/
def getDialCode (unicode : Unicode) (iso : String) : String :=
  if iso = "" then "000"
  else
    match countryData.find? fun country => country.iso = unicode.upper (strip unicode iso) with
    | some country => zfill3 (country.dial.toList.filter Char.isDigit)
    | none => "000"

/-- `f"{number:02d}"`. -/
def twoDigits (number : ℕ) : String :=
  if number < 10 then "0" ++ toString number else toString number

def firstFree (used : List ℕ) : ℕ :=
  ((List.range' 1 (used.length + 1)).find? fun number => number ∉ used).getD 0

namespace InvitationEnv

variable (env : InvitationEnv)

/-- The local `prefix` of `_gen_account_name`. -/
def nameStem (salesId : ℕ) (country : String) : String :=
  let upper := env.unicode.upper country
  let iso := if upper = "GLOBAL" then "" else upper
  "TG" ++ trailingDigits env.unicode ((env.adminUsername salesId).getD "") ++
    (if iso = "" then "000" else getDialCode env.unicode iso) ++ "V"

/-- The numbers behind a beginning that names use. None where `int` raises. -/
def usedSeqs (stem : String) (names : List String) : Option (List ℕ) :=
  (((names.filter (env.like stem)).map fun name =>
    String.ofList (name.toList.drop stem.length)).filter (isDigits env.unicode)).mapM
      (readInt env.unicode)

/-- `_gen_account_name`, with the names that it reads. -/
def genAccountName (salesId : ℕ) (country : String) (names : List String) : Option String :=
  let stem := env.nameStem salesId country
  (env.usedSeqs stem names).map fun used => stem ++ twoDigits (firstFree used)

end InvitationEnv

/-! ### An activation -/

namespace PricingConfig

/-- `config.get('business_type', 'sms')`. -/
def business (config : PricingConfig) : String :=
  config.businessType.getD "sms"

/-- `config.get('country', 'global')`. -/
def countryOrGlobal (config : PricingConfig) : String :=
  config.country.getD "global"

def services (config : PricingConfig) : List String :=
  if config.business = "sms" ∨ config.business = "rcs" then [config.business, "data"]
  else [config.business]

def initialBalance (config : PricingConfig) : Money :=
  if config.business = "sms" ∨ config.business = "rcs" then 10000 else 0

end PricingConfig

/-- `get_valid_code`. -/
def getValidCode (tables : InvitationTables) (code : String) (now : ℕ) : Option InvitationCode :=
  (tables.codes code).filter fun invite =>
    invite.status = .unused ∧ ∀ time ∈ invite.expiresAt, now ≤ time

def InvitationCode.account (invite : InvitationCode) (id tgId : ℕ) (accountName : String) :
    OpenedAccount where
  id := id
  accountName := accountName
  salesId := invite.salesId
  balance := invite.pricingConfig.initialBalance
  businessType := invite.pricingConfig.business
  services := invite.pricingConfig.services
  countryCode :=
    if invite.pricingConfig.countryOrGlobal = "global" then none
    else some invite.pricingConfig.countryOrGlobal
  unitPrice := invite.pricingConfig.price.getD 500
  tgId := tgId

def OpenedAccount.openingCredits (account : OpenedAccount) : List OpeningCredit :=
  let service := if account.businessType = "rcs" then "RCS" else "短信"
  if 0 < account.balance then
    [⟨account.id, account.balance, account.balance, s!"新开{service}账户赠送"⟩]
  else []

def InvitationCode.markUsed (invite : InvitationCode) (accountId now : ℕ) : InvitationCode :=
  { invite with status := .used, usedByAccountId := some accountId, usedAt := some now }

def InvitationTables.activate (tables : InvitationTables) (code : String)
    (account : OpenedAccount) (now : ℕ) : InvitationTables where
  codes := Function.update tables.codes code
    ((tables.codes code).map fun invite => invite.markUsed account.id now)
  accounts := tables.accounts ++ [account]
  credits := tables.credits ++ account.openingCredits
  telegramUsers := Function.update tables.telegramUsers account.tgId (some account.id)

/-- Where a call of `activate_code` stands: with the code that it has read, the tables as they were
when it began, the names that it has read, and its account. -/
inductive ActivationStage where
  | idle
  | valid (invite : InvitationCode) (tgId : ℕ) (snapshot : InvitationTables)
  | named (invite : InvitationCode) (tgId : ℕ) (snapshot : InvitationTables)
      (seen : List String) (accountName : String)
  | flushed (invite : InvitationCode) (snapshot : InvitationTables) (seen : List String)
      (account : OpenedAccount)
  | ready (invite : InvitationCode) (hasUser : Bool) (seen : List String)
      (account : OpenedAccount)
  | ended

inductive ActivationLabel where
  | begin (call : ℕ) (code : String) (tgId now : ℕ)
  | name (call : ℕ) (latest : Bool)
  | flush (call : ℕ)
  | findUser (call : ℕ) (latest : Bool)
  | commit (call now : ℕ)
  | crash (call : ℕ)
  deriving DecidableEq, Repr

structure Invitations where
  committed : InvitationTables
  nextId : ℕ
  calls : (call : ℕ) → ActivationStage
  origins : List (String × ℕ)

namespace Invitations

def setStage (state : Invitations) (call : ℕ) (stage : ActivationStage) : Invitations :=
  { state with calls := Function.update state.calls call stage }

def view (state : Invitations) (snapshot : InvitationTables) (latest : Bool) : InvitationTables :=
  if latest then state.committed else snapshot

variable (env : InvitationEnv)

def next (state : Invitations) : ActivationLabel → Option Invitations
  | .begin call code tgId now =>
      match state.calls call with
      | .idle =>
          match getValidCode state.committed code now with
          | some invite => some (state.setStage call (.valid invite tgId state.committed))
          | none => some (state.setStage call .ended)
      | _ => none
  | .name call latest =>
      match state.calls call with
      | .valid invite tgId snapshot =>
          let config := invite.pricingConfig
          let seen := (state.view snapshot latest).accounts.map OpenedAccount.accountName
          if env.belowFloor config then some (state.setStage call .ended)
          else
            match env.genAccountName invite.salesId config.countryOrGlobal seen with
            | some accountName =>
                some (state.setStage call (.named invite tgId snapshot seen accountName))
            | none => some (state.setStage call .ended)
      | _ => none
  | .flush call =>
      match state.calls call with
      | .named invite tgId snapshot seen accountName =>
          let account := invite.account state.nextId tgId accountName
          some { state.setStage call (.flushed invite snapshot seen account) with
            nextId := state.nextId + 1 }
      | _ => none
  | .findUser call latest =>
      match state.calls call with
      | .flushed invite snapshot seen account =>
          let hasUser := ((state.view snapshot latest).telegramUsers account.tgId).isSome
          some (state.setStage call (.ready invite hasUser seen account))
      | _ => none
  | .commit call now =>
      match state.calls call with
      | .ready invite hasUser _ account =>
          -- the user of the messenger is a primary key, and an updated row must be there
          if (hasUser = false ∧ (state.committed.telegramUsers account.tgId).isSome) ∨
              state.committed.codes invite.code = none then
            some (state.setStage call .ended)
          else
            some { state.setStage call .ended with
              committed := state.committed.activate invite.code account now
              origins := state.origins ++ [(invite.code, account.id)] }
      | _ => none
  | .crash call => some (state.setStage call .ended)

def Step (state : Invitations) (label : ActivationLabel) (after : Invitations) : Prop :=
  state.next env label = some after

structure Fresh (state : Invitations) : Prop where
  idle : ∀ call, state.calls call = .idle
  unopened : state.origins = []
  keyed : (state.committed.accounts.map OpenedAccount.id).Nodup
  below : ∀ account ∈ state.committed.accounts, account.id < state.nextId
  credited : ∀ credit ∈ state.committed.credits, credit.accountId < state.nextId

def accountsOf (state : Invitations) (code : String) : List OpenedAccount :=
  state.committed.accounts.filter fun account => (code, account.id) ∈ state.origins

def creditsOf (state : Invitations) (code : String) : List OpeningCredit :=
  state.committed.credits.filter fun credit => (code, credit.accountId) ∈ state.origins

def opened (state : Invitations) : List OpenedAccount :=
  state.committed.accounts.filter fun account => account.id ∈ state.origins.map Prod.snd

structure UsedOnce (state : Invitations) : Prop where
  accounts : ∀ code, (state.accountsOf code).length ≤ 1
  credits : ∀ code, (state.creditsOf code).length ≤ 1
  names : (state.opened.map OpenedAccount.accountName).Nodup

/-- When a call commits, its code is still unused, and the accounts under the beginning of its name
are those that it has seen. -/
def Undisturbed (state : Invitations) : ActivationLabel → Prop
  | .commit call _ =>
      ∀ invite hasUser seen account, state.calls call = .ready invite hasUser seen account →
        (∀ stored ∈ state.committed.codes invite.code, stored.status = .unused) ∧
          ∀ other ∈ state.committed.accounts,
            (env.nameStem invite.salesId invite.pricingConfig.countryOrGlobal).toList <+:
              other.accountName.toList → other.accountName ∈ seen
  | _ => True

end Invitations

end Klsmsc
