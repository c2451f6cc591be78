import DoubleEntry.Config.Settings

/-!
The settings of a load test, which come from the environment alone and all have defaults.
-/

set_option autoImplicit false

namespace DoubleEntry.LoadTest

open Config (Decoder Record Environment ConfigError Table decodeText decodeInt64 decodeNat64)

structure Settings where
  baseUrl : String := "http://localhost:8080"
  accounts : Int := 300
  firstAccountId : Int := 1
  transfers : Nat := 10000
  concurrency : Nat := 100
  requestTimeoutSecs : Nat := 10
deriving DecidableEq, Repr

def decodeSettings : Decoder Settings := fun v => do
  let r ← Record.ofValue "LoadTestConfig"
    ["base_url", "accounts", "first_account_id", "transfers", "concurrency", "request_timeout_secs"] v
  let default : Settings := {}
  let baseUrl ← r.readOr "base_url" decodeText default.baseUrl
  let accounts ← r.readOr "accounts" decodeInt64 default.accounts
  let firstAccountId ← r.readOr "first_account_id" decodeInt64 default.firstAccountId
  let transfers ← r.readOr "transfers" decodeNat64 default.transfers
  let concurrency ← r.readOr "concurrency" decodeNat64 default.concurrency
  let requestTimeoutSecs ← r.readOr "request_timeout_secs" decodeNat64 default.requestTimeoutSecs
  return { baseUrl, accounts, firstAccountId, transfers, concurrency, requestTimeoutSecs }

def naming : Environment.Naming := ⟨"loadtest_", false⟩

def load (environment : Environment) : Except ConfigError Settings :=
  Config.decodeAll decodeSettings (Config.merge [Environment.table naming environment])

end DoubleEntry.LoadTest
