/-
# SlotsGame.Admission.Economic -- the economic admission of two buckets

A new intent is charged to the bucket of its operator and to the bucket of the wallet
backend that the operator is routed to.  The backend's key is shared by all operators
of the backend.  The script keeps in a key the tokens after its last charge and the
millisecond of that charge.
-/
import SlotsGame.Admission.Limiter
import SlotsGame.Text

namespace SlotsGame.Admission

open SlotsGame.Theory

set_option autoImplicit false

/-! ## Routes -/

/-- `unicode.IsSpace` -/
def isSpace (c : Char) : Bool :=
  let code := c.toNat
  (9 ≤ code && code ≤ 13) || code == 32 || code == 0x85 || code == 0xA0 || code == 0x1680 ||
    (0x2000 ≤ code && code ≤ 0x200A) || code == 0x2028 || code == 0x2029 || code == 0x202F ||
    code == 0x205F || code == 0x3000

/-- `strings.TrimSpace` -/
def trimSpace (text : String) : String :=
  String.ofList ((text.toList.dropWhile isSpace).reverse.dropWhile isSpace).reverse

structure EconomicRoute where
  operatorID : String
  backendID : String
  deriving DecidableEq

structure EconomicRouteKeys where
  operator : String
  backend : String
  deriving DecidableEq

/-- `economicKeyPrefix` -/
def economicKeyPrefix : String := "rgs:shared-admission:v2:"

/-- HMAC-SHA-256 under the key of the limiter. -/
abbrev Mac := String → Fin 32 → Fin 256

def economicDigest (mac : Mac) (identity : String) : String :=
  String.ofList (Text.hexEncode (List.ofFn (mac identity)))

/-- The keys of a route: those of one backend share a hash tag. -/
def economicRouteKeys (mac : Mac) (route : EconomicRoute) : EconomicRouteKeys :=
  let backendDigest := economicDigest mac ("backend\x00" ++ route.backendID)
  let keyPrefix := economicKeyPrefix ++ ("\x7brgs-economic:" ++ (backendDigest ++ "\x7d:"))
  { operator := keyPrefix ++ ("operator:" ++ economicDigest mac ("operator\x00" ++ route.operatorID))
    backend := keyPrefix ++ "backend" }

/-- The loop of `newEconomicAdmission` that fills the table of routes. -/
def compileRoutes (mac : Mac) :
    List EconomicRoute → (String → Option EconomicRouteKeys) →
      Except String (String → Option EconomicRouteKeys)
  | [], compiled => .ok compiled
  | route :: rest, compiled =>
      if route.operatorID = "" ∨ route.backendID = "" ∨
          trimSpace route.operatorID ≠ route.operatorID ∨
          trimSpace route.backendID ≠ route.backendID then
        .error "economic admission route is invalid"
      else if (compiled route.operatorID).isSome then
        .error "economic admission route is duplicated"
      else
        compileRoutes mac rest
          (Function.update compiled route.operatorID (some (economicRouteKeys mac route)))

structure EconomicAdmission where
  operator : Policy
  backend : Policy
  routes : String → Option EconomicRouteKeys

def newEconomicAdmission (mac : Mac) (operator backend : Policy) (routes : List EconomicRoute) :
    Except String EconomicAdmission :=
  if operator.validate ≠ .ok () then .error "invalid economic operator policy"
  else if backend.validate ≠ .ok () then .error "invalid economic backend policy"
  else if routes.length = 0 ∨ routes.length > 100000 then
    .error "economic admission requires a bounded route table"
  else
    match compileRoutes mac routes (fun _ => none) with
    | .error message => .error message
    | .ok compiled => .ok { operator := operator, backend := backend, routes := compiled }

/-! ## The script -/

/-- `TIME` of the server. -/
structure ServerTime where
  seconds : Nat
  microseconds : Nat
  deriving DecidableEq

namespace ServerTime

/-- Microseconds since the epoch. -/
def micros (time : ServerTime) : Nat := time.seconds * 1000000 + time.microseconds

/-- `now_ms` -/
def millis (time : ServerTime) : Nat := time.seconds * 1000 + time.microseconds / 1000

/-- The checks of the script on a time. -/
def Sane (time : ServerTime) : Prop :=
  time.microseconds < 1000000 ∧ time.millis ≤ 9007199254740991

instance (time : ServerTime) : Decidable time.Sane := inferInstanceAs (Decidable (_ ∧ _))

end ServerTime

/-- `ARGV`, each as `tonumber` reads it. -/
structure EconomicArguments where
  operatorCapacity : Option ℚ
  operatorRate : Option ℚ
  backendCapacity : Option ℚ
  backendRate : Option ℚ
  cost : Option ℚ

def economicConfigurationError : String := "invalid economic token bucket configuration"
def economicStateError : String := "invalid economic token bucket state"
def economicCostError : String := "invalid economic admission cost"
def economicTimeError : String := "invalid economic admission server time"

section Script

variable (round : ℚ → ℚ)

/-- `load_bucket`: the tokens of a bucket, and the time to live of its entry. -/
def loadBucket (keys : Keyspace) (key : String) (capacity rate : ℚ) (now : Nat) :
    Except String (ℚ × Int) :=
  if capacity < 1000 ∨ capacity > 1000000000 ∨ rate < 1 ∨ rate > 100000000 then
    .error economicConfigurationError
  else
    let fill := fillTime round capacity rate
    if fill + 1000 > 86400000 then .error economicConfigurationError
    else
      match keys.get now key with
      | none => .ok (capacity, ttlBase fill)
      | some entry =>
          match entry.value with
          | .table [tokens, last] =>
              if tokens < 0 ∨ last ≠ ⌊last⌋ ∨ last < 0 ∨ last > 9007199254740991 then
                .error economicStateError
              else
                .ok (refill round capacity rate (min capacity tokens)
                  (clipElapsed (round (now - last)) fill), ttlBase fill)
          | _ => .error economicStateError

/-- `math.ceil((cost - tokens) * 1000 / rate)` -/
def missingTime (cost tokens rate : ℚ) : Int :=
  ⌈round (round (round (cost - tokens) * 1000) / rate)⌉

/-- `MSET` and `PEXPIRE` of both keys. -/
def chargeBoth (keys : Keyspace) (route : EconomicRouteKeys) (now : Nat)
    (operator backend : ℚ × Int) (cost : ℚ) : Keyspace :=
  (keys.set now route.operator (.table [round (operator.1 - cost), now]) operator.2.toNat).set now
    route.backend (.table [round (backend.1 - cost), now]) backend.2.toNat

/-- The joint decision: the limited buckets, and the longer of the two waits. -/
def decideBoth (keys : Keyspace) (route : EconomicRouteKeys) (now : Nat) (operator backend : ℚ × Int)
    (operatorRate backendRate cost : ℚ) : Except String (Int × Int × Int) × Keyspace :=
  let limited : Int := 0
  let retry : Int := 0
  let (limited, retry) :=
    if operator.1 < cost then
      (limited + 1, max retry (missingTime round cost operator.1 operatorRate))
    else (limited, retry)
  let (limited, retry) :=
    if backend.1 < cost then
      (limited + 2, max retry (missingTime round cost backend.1 backendRate))
    else (limited, retry)
  if limited ≠ 0 then (.ok (0, limited, max 1 retry), keys)
  else (.ok (1, 0, 0), chargeBoth round keys route now operator backend cost)

/-- `economicTokenBucketScriptBody`: the reply, and the keys after it. -/
def economicTokenBucketScript (arguments : EconomicArguments) (keys : Keyspace)
    (route : EconomicRouteKeys) (time : ServerTime) :
    Except String (Int × Int × Int) × Keyspace :=
  match arguments.operatorCapacity, arguments.operatorRate, arguments.backendCapacity,
      arguments.backendRate with
  | some operatorCapacity, some operatorRate, some backendCapacity, some backendRate =>
      if operatorCapacity < 1000 ∨ operatorCapacity > 1000000000 ∨
          backendCapacity < 1000 ∨ backendCapacity > 1000000000 ∨
          operatorRate < 1 ∨ operatorRate > 100000000 ∨
          backendRate < 1 ∨ backendRate > 100000000 then
        (.error economicConfigurationError, keys)
      else
        match arguments.cost with
        | none => (.error economicCostError, keys)
        | some cost =>
            if cost ≠ ⌊cost⌋ ∨ cost < 1000 ∨ cost > operatorCapacity ∨ cost > backendCapacity then
              (.error economicCostError, keys)
            else if ¬ time.Sane then (.error economicTimeError, keys)
            else
              let now := time.millis
              match loadBucket round keys route.operator operatorCapacity operatorRate now with
              | .error message => (.error message, keys)
              | .ok operator =>
                  match loadBucket round keys route.backend backendCapacity backendRate now with
                  | .error message => (.error message, keys)
                  | .ok backend =>
                      decideBoth round keys route now operator backend operatorRate backendRate cost
  | _, _, _, _ => (.error economicConfigurationError, keys)

end Script

/-! ## `admitCost` -/

/-- A request for cost units of an operator, at an instant of the server. -/
structure Spending where
  time : ServerTime
  operatorID : String
  costUnits : Int
  deriving DecidableEq

/-- The fifth argument. -/
def Spending.cost (spending : Spending) : Int :=
  if spending.costUnits ≠ 1 then spending.costUnits * 1000 else 1000

namespace EconomicAdmission

variable (admission : EconomicAdmission)

def arguments (spending : Spending) : EconomicArguments where
  operatorCapacity := some admission.operator.capacityMilli
  operatorRate := some admission.operator.rateMilli
  backendCapacity := some admission.backend.capacityMilli
  backendRate := some admission.backend.rateMilli
  cost := some spending.cost

/-- The script that `admitCost` runs: nothing for a cost out of bounds or an operator
without a route. -/
def evaluate (round : ℚ → ℚ) (keys : Keyspace) (spending : Spending) :
    Option (Except String (Int × Int × Int)) × Keyspace :=
  if spending.costUnits < 1 ∨ spending.costUnits > 1000000 then (none, keys)
  else
    match admission.routes spending.operatorID with
    | none => (none, keys)
    | some route =>
        let reply := economicTokenBucketScript round (admission.arguments spending) keys route
          spending.time
        (some reply.1, reply.2)

/-- The replies to a sequence of requests, and the keys after it. -/
def evaluateAll (round : ℚ → ℚ) :
    Keyspace → List Spending → List (Option (Except String (Int × Int × Int))) × Keyspace
  | keys, [] => ([], keys)
  | keys, spending :: rest =>
      let reply := admission.evaluate round keys spending
      let later := evaluateAll round reply.2 rest
      (reply.1 :: later.1, later.2)

end EconomicAdmission

/-- `admitCost` takes the reply of the script. -/
def acceptsEconomicReply (result : List Int) : Bool :=
  match result with
  | [allowed, limited, retry] =>
      !(decide (allowed ≠ 0 ∧ allowed ≠ 1) || decide (limited < 0) || decide (limited > 3) ||
        decide (retry < 0) || decide (retry > maximumBucketTTL) ||
        (allowed == 1 && (limited != 0 || retry != 0)) ||
        (allowed == 0 && (limited == 0 || retry == 0)))
  | _ => false

/-! ## The table of routes -/

/-- No key is both an operator's and a backend's. -/
def EconomicAdmission.Apart (admission : EconomicAdmission) : Prop :=
  ∀ first second left right, admission.routes first = some left →
    admission.routes second = some right → left.operator ≠ right.backend

theorem economicDigest_length (mac : Mac) (identity : String) :
    (economicDigest mac identity).toList.length = 64 := by
  have long (bytes : List (Fin 256)) : (Text.hexEncode bytes).length = 2 * bytes.length := by
    induction bytes with
    | nil => rfl
    | cons byte rest ih =>
        rw [Text.hexEncode, List.flatMap_cons, ← Text.hexEncode, List.length_append, ih,
          List.length_cons]
        show 2 + 2 * rest.length = _
        omega
  rw [economicDigest, String.toList_ofList, long, List.length_ofFn]

theorem economicRouteKeys_apart (mac : Mac) (left right : EconomicRoute) :
    (economicRouteKeys mac left).operator ≠ (economicRouteKeys mac right).backend := by
  intro same
  have chars := congrArg String.toList same
  simp only [economicRouteKeys, String.toList_append, List.append_assoc] at chars
  obtain ⟨_, chars⟩ := List.append_inj chars rfl
  obtain ⟨_, chars⟩ := List.append_inj chars rfl
  obtain ⟨_, chars⟩ := List.append_inj chars (by rw [economicDigest_length, economicDigest_length])
  obtain ⟨_, chars⟩ := List.append_inj chars rfl
  exact absurd (List.head_eq_of_cons_eq chars) (by decide)

theorem compileRoutes_keys {mac : Mac} {routes : List EconomicRoute}
    {compiled result : String → Option EconomicRouteKeys}
    (ok : compileRoutes mac routes compiled = .ok result) {operatorID : String}
    {keys : EconomicRouteKeys} (found : result operatorID = some keys) :
    compiled operatorID = some keys ∨ ∃ route ∈ routes, keys = economicRouteKeys mac route := by
  induction routes generalizing compiled with
  | nil =>
      cases ok
      exact .inl found
  | cons route rest ih =>
      simp only [compileRoutes] at ok
      split at ok
      · cases ok
      split at ok
      · cases ok
      rcases ih ok with earlier | ⟨later, listed, same⟩
      · by_cases here : operatorID = route.operatorID
        · subst here
          rw [Function.update_self] at earlier
          exact .inr ⟨route, List.mem_cons_self, (Option.some.inj earlier).symm⟩
        · rw [Function.update_of_ne here] at earlier
          exact .inl earlier
      · exact .inr ⟨later, List.mem_cons_of_mem _ listed, same⟩

/-- A configured admission has policies within bounds and keys that are apart. -/
theorem newEconomicAdmission_ok {mac : Mac} {operator backend : Policy}
    {routes : List EconomicRoute} {admission : EconomicAdmission}
    (ok : newEconomicAdmission mac operator backend routes = .ok admission) :
    admission.operator.Valid ∧ admission.backend.Valid ∧ admission.Apart := by
  unfold newEconomicAdmission at ok
  split at ok
  · cases ok
  split at ok
  · cases ok
  split at ok
  · cases ok
  next operatorOk backendOk _ =>
    split at ok
    · cases ok
    next compiled compiledOk =>
      cases ok
      refine ⟨(Policy.validate_ok _).mp (not_not.mp operatorOk),
        (Policy.validate_ok _).mp (not_not.mp backendOk), ?_⟩
      intro first second left right foundLeft foundRight
      rcases compileRoutes_keys compiledOk foundLeft with none | ⟨leftRoute, _, rfl⟩
      · cases none
      rcases compileRoutes_keys compiledOk foundRight with none | ⟨rightRoute, _, rfl⟩
      · cases none
      exact economicRouteKeys_apart mac leftRoute rightRoute

end SlotsGame.Admission
