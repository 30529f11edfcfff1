import Klsmsc.Gateway.Delivery
import Klsmsc.Library.TokenBuckets

/-!
# Rate limits of a channel

A channel sends at the pace of a token bucket, which is filled every 100 ms. The batch of a tick is
the tenth part of the rate, rounded down, but at least one token: a bucket for fewer than ten
messages a second lets ten of them pass. Just those rates come up when a channel is throttled,
since they are a tenth of its ordinary rate.

A configuration is the JSON value of its text, if the text has one.
-/

namespace Klsmsc

open Library

/-- `newTPSBucket`. -/
def newTPSBucket (tps : ℤ) : Option TokenBucket :=
  if tps ≤ 0 then none
  else some (TokenBucket.full (min tps 200).toNat (max (tps / 10) 1).toNat)

/-- `parseConfigJSONInt`. -/
def parseConfigJSONInt (config : Option Json) (key : String) (defaultVal : ℤ) : ℤ :=
  match config with
  | some (.obj fields) => ((Json.field fields key).bind Json.toInt).getD defaultVal
  | _ => defaultVal

/-- The fields of `ChannelConfig` that set the rate of a channel. -/
structure RateConfig where
  maxTPS : ℤ
  configJSON : Option Json

def throttleTPS (cfg : RateConfig) : ℤ :=
  let configured := parseConfigJSONInt cfg.configJSON "throttle_tps" 0
  if configured ≤ 0 then
    if cfg.maxTPS.tdiv 10 < 1 then 1 else cfg.maxTPS.tdiv 10
  else configured

/-- The buckets of `tpsLimiters`. -/
abbrev TpsLimiters := ℕ → Option TokenBucket

/-- `throttleChannel` until it sleeps: a new bucket takes the place of the old one. -/
def throttleChannel (limiters : TpsLimiters) (channelID : ℕ) (cfg : RateConfig) : TpsLimiters :=
  Function.update limiters channelID (newTPSBucket (throttleTPS cfg))

/-- After any number of ticks the bucket of a rate has granted no more than its first filling and
what the rate gives for the time. -/
def RateHolds (tps : ℤ) : Prop :=
  ∀ bucket, newTPSBucket tps = some bucket → ∀ transitions last,
    Run TokenBucket.Step bucket transitions last →
      (last.granted : ℤ) ≤ min tps 200 + last.ticks * tps / 10

/-- After any number of seconds the bucket that throttles a channel has granted no more than its
first filling and the throttled rate for each second. -/
def ThrottledRateHolds (cfg : RateConfig) : Prop :=
  ∀ (limiters : TpsLimiters) (channelID : ℕ) (bucket : TokenBucket),
    throttleChannel limiters channelID cfg channelID = some bucket → ∀ transitions last,
      Run TokenBucket.Step bucket transitions last → ∀ seconds : ℕ, last.ticks ≤ 10 * seconds →
        (last.granted : ℤ) ≤ min (throttleTPS cfg) 200 + seconds * throttleTPS cfg

theorem newTPSBucket_pos {tps : ℤ} (positive : 0 < tps) :
    newTPSBucket tps = some (TokenBucket.full (min tps 200).toNat (max (tps / 10) 1).toNat) :=
  if_neg (by omega)

theorem throttleTPS_pos (cfg : RateConfig) : 0 < throttleTPS cfg := by
  simp only [throttleTPS]
  split
  · split <;> omega
  · omega

theorem throttleChannel_self (limiters : TpsLimiters) (channelID : ℕ) (cfg : RateConfig) :
    throttleChannel limiters channelID cfg channelID =
      some (TokenBucket.full (min (throttleTPS cfg) 200).toNat
        (max (throttleTPS cfg / 10) 1).toNat) := by
  rw [throttleChannel, Function.update_self, newTPSBucket_pos (throttleTPS_pos cfg)]

theorem granted_le_of_run {tps : ℤ} (positive : 0 < tps) {last : TokenBucket}
    {transitions : List (Transition TokenBucket BucketEvent)}
    (run : Run TokenBucket.Step (TokenBucket.full (min tps 200).toNat (max (tps / 10) 1).toNat)
      transitions last) :
    (last.granted : ℤ) ≤ min tps 200 + last.ticks * max (tps / 10) 1 := by
  have bound := Int.ofNat_le.mpr (TokenBucket.granted_le run)
  rw [Int.natCast_add, Int.natCast_mul, Int.toNat_of_nonneg (by omega),
    Int.toNat_of_nonneg (by omega)] at bound
  exact bound

theorem exists_granted_of_slow {tps : ℤ} (positive : 0 < tps) (slow : tps < 10) (ticks : ℕ) :
    ∃ transitions last,
      Run TokenBucket.Step (TokenBucket.full (min tps 200).toNat (max (tps / 10) 1).toNat)
        transitions last ∧ last.ticks = ticks ∧ (last.granted : ℤ) = tps + ticks := by
  have one : (max (tps / 10) 1).toNat = 1 := by omega
  have first : (min tps 200).toNat = tps.toNat := by omega
  rw [one, first]
  rcases TokenBucket.leads_granted 1 ticks (by omega : 0 < tps.toNat) with ⟨transitions, run⟩
  refine ⟨transitions, _, run, rfl, ?_⟩
  simp only [Nat.mul_one, Int.natCast_add]
  omega

theorem rateHolds_iff {tps : ℤ} (positive : 0 < tps) : RateHolds tps ↔ 10 ≤ tps := by
  constructor
  · intro holds
    by_contra slow
    rcases exists_granted_of_slow positive (by omega) 1 with
      ⟨transitions, last, run, ticks, granted⟩
    have bound := holds _ (newTPSBucket_pos positive) transitions last run
    rw [ticks, granted] at bound
    omega
  · intro fast bucket made transitions last run
    rw [newTPSBucket_pos positive] at made
    cases made
    have bound := granted_le_of_run positive run
    have tenth : (last.ticks : ℤ) * (tps / 10) ≤ last.ticks * tps / 10 := by
      rw [Int.le_ediv_iff_mul_le (by decide), Int.mul_assoc]
      exact Int.mul_le_mul_of_nonneg_left (by omega) (Int.natCast_nonneg _)
    rw [Int.max_eq_left (by omega)] at bound
    omega

theorem throttledRateHolds_iff (cfg : RateConfig) :
    ThrottledRateHolds cfg ↔ 10 ≤ throttleTPS cfg := by
  have positive := throttleTPS_pos cfg
  constructor
  · intro holds
    by_contra slow
    rcases exists_granted_of_slow positive (by omega) 10 with
      ⟨transitions, last, run, ticks, granted⟩
    have bound := holds (fun _ => none) 0 _ (throttleChannel_self _ _ _) transitions last run 1
      (by omega)
    rw [granted] at bound
    omega
  · intro fast limiters channelID bucket installed transitions last run seconds time
    rw [throttleChannel_self] at installed
    cases installed
    have bound := granted_le_of_run positive run
    rw [Int.max_eq_left (by omega)] at bound
    have whole : (last.ticks : ℤ) * (throttleTPS cfg / 10) ≤ seconds * throttleTPS cfg := by
      calc (last.ticks : ℤ) * (throttleTPS cfg / 10)
          ≤ (10 * seconds) * (throttleTPS cfg / 10) :=
            Int.mul_le_mul_of_nonneg_right (by omega) (by omega)
        _ = seconds * (throttleTPS cfg / 10 * 10) := by
            rw [Int.mul_comm 10, Int.mul_assoc, Int.mul_comm 10]
        _ ≤ seconds * throttleTPS cfg :=
            Int.mul_le_mul_of_nonneg_left (by omega) (Int.natCast_nonneg _)
    omega

/-- The limits of a rate and of a throttled channel hold exactly from ten messages a second on. -/
theorem rate_limits_iff {tps : ℤ} (positive : 0 < tps) (cfg : RateConfig) :
    (RateHolds tps ↔ 10 ≤ tps) ∧ (ThrottledRateHolds cfg ↔ 10 ≤ throttleTPS cfg) :=
  ⟨rateHolds_iff positive, throttledRateHolds_iff cfg⟩

theorem rate_limits_iff_twenty :
    (RateHolds 20 ↔ (10 : ℤ) ≤ 20) ∧
      (ThrottledRateHolds ⟨200, none⟩ ↔ 10 ≤ throttleTPS ⟨200, none⟩) :=
  rate_limits_iff (by decide) ⟨200, none⟩

def sixAtOnce : List BucketEvent :=
  List.replicate 5 .take ++ [.tick, .put, .take]

def elevenInASecond : List BucketEvent :=
  .take :: (List.replicate 10 [.tick, .put, .take, .put]).flatten

/-- A bucket for five messages a second grants six with its first tick. A channel for 15 messages a
second is throttled to one, and its bucket grants eleven in the first second. -/
theorem slow_rates_exceeded : ¬RateHolds 5 ∧ ¬ThrottledRateHolds ⟨15, none⟩ := by
  constructor
  · intro holds
    have sixth := Run.exists_labels_of_execute
      (fun last : TokenBucket => last.granted = 6 ∧ last.ticks = 1)
      (show ((execute TokenBucket.next (TokenBucket.full 5 1) sixAtOnce).any _) = true by decide)
    rcases sixth with ⟨transitions, last, run, -, granted, ticks⟩
    have bound := holds _ rfl transitions last run
    rw [granted, ticks] at bound
    exact absurd bound (by decide)
  · intro holds
    have eleventh := Run.exists_labels_of_execute
      (fun last : TokenBucket => last.granted = 11 ∧ last.ticks = 10)
      (show ((execute TokenBucket.next (TokenBucket.full 1 1) elevenInASecond).any _) = true
        by decide)
    rcases eleventh with ⟨transitions, last, run, -, granted, ticks⟩
    have bound := holds (fun _ => none) 0 _ rfl transitions last run 1 (by omega)
    rw [granted] at bound
    exact absurd bound (by decide)

end Klsmsc
