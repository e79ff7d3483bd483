import OverSync.Library.Execution
import OverSync.Library.Guard
import OverSync.Library.Hex
import Mathlib.Data.Rat.Floor
import Mathlib.Logic.Function.Basic

/-! # Partial fills of `ProgressiveFillManager`

The Merkle tree of secrets of an order, the check of a fill and its record. Amounts are strings
that `BigInt` reads; other numbers are rationals. -/

namespace OverSync.PartialFills

open Function Library

inductive Error where
  | error (message : String)
  /-- a string that is no integer -/
  | syntaxError
  /-- a division by zero, or a number that is no integer -/
  | rangeError
  /-- a property of `undefined` -/
  | typeError
  deriving DecidableEq, Repr

/-- `BigInt(s)` of a string. -/
def bigInt (s : String) : Except Error ℤ :=
  match parseBigInt s with
  | some n => .ok n
  | none => .error .syntaxError

/-- `BigInt(q)` of a number. -/
def bigIntOfNumber (q : ℚ) : Except Error ℤ :=
  if q.den = 1 then .ok q.num else .error .rangeError

/-- `a / b` of `BigInt`s truncates. -/
def divide (a b : ℤ) : Except Error ℤ :=
  if b = 0 then .error .rangeError else .ok (a.tdiv b)

/-- `xs[i]` for any number `i`. -/
def element {α : Type} (xs : List α) (i : ℚ) : Option α :=
  if i.den = 1 ∧ 0 ≤ i then xs[i.num.toNat]? else none

/-! ## `MerkleTreeSecrets` -/

structure PartialFillConfig where
  secretsCount : ℚ
  allowPartialFills : Bool
  allowMultipleFills : Bool
  minFillAmount : String
  maxFillAmount : String
  /-- percentage per fragment -/
  fragmentSize : ℚ
  deriving DecidableEq

structure Secret where
  id : String
  index : ℕ
  secret : String
  hash : String
  fillPercentage : ℚ
  createdAt : ℚ
  deriving DecidableEq

structure MerkleLeaf where
  index : ℕ
  secretHash : String
  fillAmount : ℤ
  cumulativeAmount : ℤ
  proof : List String
  deriving DecidableEq

inductive MerkleNode where
  | leaf (hash : String)
  | node (hash : String) (left : MerkleNode) (right : Option MerkleNode)

def MerkleNode.hash : MerkleNode → String
  | .leaf hash => hash
  | .node hash _ _ => hash

/-- The secrets and their tree; `root` is `none` without leaves. -/
structure MerkleTreeSecrets where
  config : PartialFillConfig
  leaves : List MerkleLeaf
  root : Option MerkleNode

structure OrderFragment where
  orderId : String
  fragmentIndex : ℕ
  fillPercentage : ℚ
  secretHash : String
  merkleProof : List String
  deriving DecidableEq

/-- What the manager takes from outside: the hash as `0x` and lower case digits, and the secret
drawn for an index at a time. -/
structure Environment where
  keccak256 : Bytes → String
  cryptoSecret : ℚ → ℕ → String

variable (E : Environment)

/-- `Buffer.from(s.replace("0x", ""), "hex")` -/
def hexBuffer (s : String) : Bytes :=
  decodeHex (dropHexPrefix s.toList)

def hashSecret (secret : String) : String :=
  E.keccak256 (hexBuffer secret)

def combine (left right : String) : String :=
  E.keccak256 (hexBuffer left ++ hexBuffer right)

def generateSecrets (now : ℚ) (orderId : String) (config : PartialFillConfig) : List Secret :=
  (List.range ⌈config.secretsCount⌉.toNat).map fun i => {
    id := orderId ++ "_" ++ toString i
    index := i
    secret := E.cryptoSecret now i
    hash := hashSecret E (E.cryptoSecret now i)
    fillPercentage := 100 / config.secretsCount
    createdAt := now }

/-- One level of the tree; a node without a partner is hashed with itself. -/
def nextLevel : List MerkleNode → List MerkleNode
  | left :: right :: nodes =>
    .node (combine E left.hash right.hash) left (some right) :: nextLevel nodes
  | [left] => [.node (combine E left.hash left.hash) left none]
  | [] => []

/-- The loop of `buildTree`; every level halves the nodes. -/
def buildLevels : ℕ → List MerkleNode → List MerkleNode
  | 0, nodes => nodes
  | fuel + 1, nodes =>
    if 1 < nodes.length then buildLevels fuel (nextLevel E nodes) else nodes

def buildTree (leaves : List MerkleLeaf) : Option MerkleNode :=
  (buildLevels E leaves.length (leaves.map fun leaf => .leaf leaf.secretHash)).head?

/-- `generateProof`: the sibling hashes on the way down from `node`. -/
def generateProof : MerkleNode → ℕ → ℕ → ℕ → List String
  | .leaf _, _, _, _ => []
  | .node _ left right, leafIndex, first, last =>
    if first = last then []
    else
      let mid := (first + last) / 2
      if leafIndex ≤ mid then
        (right.map fun r => [r.hash]).getD [] ++ generateProof left leafIndex first mid
      else
        left.hash :: match right with
          | some right => generateProof right leafIndex (mid + 1) last
          | none => []

/-- The leaves of `createMerkleTree` after `cumulative`, without their proofs. -/
def makeLeaves (total : ℤ) : ℕ → ℤ → List Secret → Except Error (List MerkleLeaf)
  | _, _, [] => .ok []
  | i, cumulative, secret :: secrets => do
    let percentage ← bigIntOfNumber secret.fillPercentage
    let fillAmount ← divide (total * percentage) 100
    let leaves ← makeLeaves total (i + 1) (cumulative + fillAmount) secrets
    return ⟨i, secret.hash, fillAmount, cumulative + fillAmount, []⟩ :: leaves

/-- `createMerkleTree` -/
def createMerkleTree (config : PartialFillConfig) (secrets : List Secret)
    (totalAmount : String) : Except Error MerkleTreeSecrets := do
  let total ← bigInt totalAmount
  let leaves ← makeLeaves total 0 0 secrets
  let root := buildTree E leaves
  let withProof (leaf : MerkleLeaf) : MerkleLeaf :=
    { leaf with proof := match root with
        | some root => generateProof root leaf.index 0 (leaves.length - 1)
        | none => [] }
  return { config := config, leaves := leaves.map withProof, root := root }

/-- The value `createMerkleTree` returns. -/
def MerkleTreeSecrets.merkleRoot (tree : MerkleTreeSecrets) : String :=
  match tree.root with
  | some root => root.hash
  | none => ""

def MerkleTreeSecrets.getProof (tree : MerkleTreeSecrets) (leafIndex : ℕ) : List String :=
  match tree.root with
  | none => []
  | some root =>
      if tree.leaves.length ≤ leafIndex then []
      else generateProof root leafIndex 0 (tree.leaves.length - 1)

def computeProofHash (secretHash : String) (proof : List String) : String :=
  proof.foldl (combine E) secretHash

def verifyProof (tree : MerkleTreeSecrets) (leafIndex : ℚ) (secretHash : String)
    (proof : List String) (merkleRoot : String) : Bool :=
  match element tree.leaves leafIndex with
  | some leaf =>
      leaf.secretHash = secretHash ∧ computeProofHash E leaf.secretHash proof = merkleRoot
  | none => false

/-- The part of `getProgressiveFillRequirements` that the progress shows; `none` is `NaN` or
infinite. Reading the amount of a negative index throws. -/
def nextSecretIndex (tree : MerkleTreeSecrets) (currentFillPercentage : ℚ) :
    Except Error (Option ℤ) :=
  if tree.config.fragmentSize = 0 then
    if currentFillPercentage < 0 then .error .typeError else .ok none
  else
    let index := ⌊currentFillPercentage / tree.config.fragmentSize⌋
    if index < 0 then .error .typeError else .ok (some index)

def generateOrderFragments (tree : MerkleTreeSecrets) (orderId : String) :
    List OrderFragment :=
  tree.leaves.mapIdx fun i leaf =>
    ⟨orderId, i, tree.config.fragmentSize, leaf.secretHash, leaf.proof⟩

/-! ## Orders and fills -/

inductive OrderStatus where
  | active
  | completed
  | cancelled
  | expired
  deriving DecidableEq, Repr

structure TimeLocks where
  srcWithdrawal : ℚ
  dstWithdrawal : ℚ
  srcCancellation : ℚ
  dstCancellation : ℚ
  deriving DecidableEq

/-- What the caller says of an order. -/
structure OrderData where
  orderId : String
  maker : String
  makerAsset : String
  takerAsset : String
  makingAmount : String
  takingAmount : String
  srcChainId : ℚ
  dstChainId : ℚ
  allowPartialFills : Bool
  allowMultipleFills : Bool
  auctionStartTime : ℚ
  auctionEndTime : ℚ
  timeLocks : TimeLocks
  deriving DecidableEq

structure PartialFillOrder extends OrderData where
  merkleRoot : String
  status : OrderStatus
  createdAt : ℚ
  updatedAt : ℚ
  deriving DecidableEq

inductive FillStatus where
  | pending
  | executed
  | failed
  | cancelled
  deriving DecidableEq, Repr

structure FillExecution where
  fillId : String
  orderId : String
  fragmentIndex : ℚ
  resolver : String
  fillAmount : String
  auctionPrice : String
  gasCost : String
  secretHash : String
  merkleProof : List String
  status : FillStatus
  executedAt : ℚ
  deriving DecidableEq

structure FillProgress where
  orderId : String
  totalAmount : ℤ
  filledAmount : ℤ
  remainingAmount : ℤ
  fillPercentage : ℤ
  fragmentsFilled : ℕ
  totalFragments : ℕ
  currentAuctionPrice : ℤ
  nextSecretIndex : Option ℤ
  estimatedCompletion : ℚ
  averageGasPrice : ℤ
  totalGasCost : ℤ
  deriving DecidableEq

structure FillRecommendation where
  orderId : String
  fragmentIndex : ℕ
  recommendedFillAmount : ℤ
  expectedProfit : ℤ
  priceImpact : ℤ
  confidence : ℚ
  timeToExpiry : ℚ
  deriving DecidableEq

/-- The answer of a check that did not throw. -/
inductive FillValidation where
  | invalid (error : String)
  | valid (estimatedGas : String) (priceImpact : ℤ) (nextAvailableFragment : ℚ)
  deriving DecidableEq

/-- The maps of the manager by order id. -/
structure State where
  orders : String → Option PartialFillOrder
  fillExecutions : String → List FillExecution
  merkleManagers : String → Option MerkleTreeSecrets

/-- The result of `initializePartialFillOrder`. -/
structure Initialized where
  order : PartialFillOrder
  fragments : List OrderFragment
  secrets : List Secret
  merkleRoot : String

def initializePartialFillOrder (now : ℚ) (orderData : OrderData) (config : PartialFillConfig)
    (s : State) : Except Error (State × Initialized) := do
  let orderId := orderData.orderId
  let secrets := generateSecrets E now orderId config
  let tree ← createMerkleTree E config secrets orderData.makingAmount
  let order : PartialFillOrder := { orderData with
    merkleRoot := tree.merkleRoot
    status := .active
    createdAt := now
    updatedAt := now }
  return ({
      orders := update s.orders orderId (some order)
      fillExecutions := update s.fillExecutions orderId []
      merkleManagers := update s.merkleManagers orderId (some tree) },
    ⟨order, generateOrderFragments tree orderId, secrets, tree.merkleRoot⟩)

/-- The arguments of `executePartialFill`, with the time of the call. -/
structure Call where
  orderId : String
  fragmentIndex : ℚ
  fillAmount : String
  resolver : String
  secretHash : String
  merkleProof : List String
  now : ℚ
  deriving DecidableEq

/-- `executions.reduce((sum, exec) => sum + BigInt(f(exec)), BigInt(0))` -/
def sumOf (f : FillExecution → String) : List FillExecution → Except Error ℤ :=
  List.foldlM (fun sum exec => do return sum + (← bigInt (f exec))) 0

/-- 0.1 ETH -/
def gasEstimate : String := "100000000000000000"

def executedFills (executions : List FillExecution) : List FillExecution :=
  executions.filter fun exec => exec.status = .executed

/-- Percent of `total`; of nothing it is 0. -/
def priceImpact (fill total : ℤ) : Except Error ℤ :=
  if total = 0 then .ok 0 else divide (fill * 100) total

def calculatePriceImpact (fillAmount totalAmount : String) : Except Error ℤ := do
  let fill ← bigInt fillAmount
  let total ← bigInt totalAmount
  priceImpact fill total

def validateFill (s : State) (call : Call) : Except Error FillValidation :=
  match s.orders call.orderId, s.merkleManagers call.orderId with
  | some order, some tree =>
      if order.status ≠ .active then .ok (.invalid "Order not active")
      else if call.now < order.auctionStartTime then .ok (.invalid "Auction not started")
      else if order.auctionEndTime < call.now then .ok (.invalid "Auction expired")
      else if order.allowPartialFills = false ∧ call.fillAmount ≠ order.makingAmount then
        .ok (.invalid "Partial fills not allowed")
      else if verifyProof E tree call.fragmentIndex call.secretHash call.merkleProof
          order.merkleRoot = false then
        .ok (.invalid "Invalid merkle proof")
      else
        let executed := executedFills (s.fillExecutions call.orderId)
        if executed.any fun exec => exec.fragmentIndex = call.fragmentIndex then
          .ok (.invalid "Fragment already filled")
        else do
          let totalFilled ← sumOf (·.fillAmount) executed
          let making ← bigInt order.makingAmount
          let fillAmount ← bigInt call.fillAmount
          if making - totalFilled < fillAmount then
            return .invalid "Fill amount exceeds remaining amount"
          let priceImpact ← calculatePriceImpact call.fillAmount order.makingAmount
          return .valid gasEstimate priceImpact (call.fragmentIndex + 1)
  | _, _ => .ok (.invalid "Order not found")

/-- In milliseconds; 30 seconds without a completed fill. -/
def calculateAverageFillTime (executions : List FillExecution) : ℚ :=
  let completed := executedFills executions
  if completed = [] then 30000
  else (completed.map fun exec => exec.executedAt).sum / completed.length

def averageGasPrice (executions : List FillExecution) (totalGasCost : ℤ) : Except Error ℤ :=
  if executions = [] then .ok 0 else divide totalGasCost executions.length

def calculateFillProgress (now : ℚ) (orderId : String) (s : State) :
    Except Error FillProgress :=
  match s.orders orderId, s.merkleManagers orderId with
  | some order, some tree => do
      let executions := s.fillExecutions orderId
      let executed := executedFills executions
      let totalAmount ← bigInt order.makingAmount
      let filledAmount ← sumOf (·.fillAmount) executed
      let fillPercentage ← divide (filledAmount * 100) totalAmount
      let totalFragments := (generateOrderFragments tree orderId).length
      let nextSecretIndex ← nextSecretIndex tree fillPercentage
      let totalGasCost ← sumOf (·.gasCost) executions
      let averageGasPrice ← averageGasPrice executions totalGasCost
      let fillTime := calculateAverageFillTime executions
      return {
        orderId := orderId
        totalAmount := totalAmount
        filledAmount := filledAmount
        remainingAmount := totalAmount - filledAmount
        fillPercentage := fillPercentage
        fragmentsFilled := executed.length
        totalFragments := totalFragments
        currentAuctionPrice := filledAmount
        nextSecretIndex := nextSecretIndex
        estimatedCompletion := now + fillTime * ((totalFragments : ℚ) - executed.length)
        averageGasPrice := averageGasPrice
        totalGasCost := totalGasCost }
  | _, _ => .error (.error "Order not found")

/-- The first index from `next` on that is not in `filled`; `fuel` is their number. -/
def firstUnfilled (filled : List ℚ) : ℕ → ℕ → ℕ
  | 0, next => next
  | fuel + 1, next =>
    if (next : ℚ) ∈ filled then firstUnfilled filled fuel (next + 1) else next

def calculateRecommendationConfidence (progress : FillProgress) (timeToExpiry : ℚ) : ℚ :=
  min (70 + min (timeToExpiry / 60000) 20 + progress.fillPercentage * (1 / 10)) 100

/-- Without the number of competitors, which is random. -/
def generateFillRecommendation (now : ℚ) (orderId : String) (progress : FillProgress)
    (s : State) : Except Error (Option FillRecommendation) :=
  match s.orders orderId, s.merkleManagers orderId with
  | some order, some _ =>
      if 100 ≤ progress.fillPercentage then .ok none
      else do
        let filled := (executedFills (s.fillExecutions orderId)).map fun exec =>
          exec.fragmentIndex
        let recommended ← divide progress.remainingAmount
          ((progress.totalFragments : ℤ) - progress.fragmentsFilled)
        let making ← bigInt order.makingAmount
        let expectedRevenue ← divide (recommended * recommended) making
        let priceImpact ← priceImpact recommended making
        return some {
          orderId := orderId
          fragmentIndex := firstUnfilled filled filled.length 0
          recommendedFillAmount := recommended
          expectedProfit := expectedRevenue - 10 ^ 17
          priceImpact := priceImpact
          confidence := calculateRecommendationConfidence progress (order.auctionEndTime - now)
          timeToExpiry := order.auctionEndTime - now }
  | _, _ => .ok none

/-- The record of a fill; nothing changes its status later. -/
def Call.execution (call : Call) : FillExecution where
  fillId := call.orderId ++ "_" ++ toString call.fragmentIndex ++ "_" ++ toString call.now
  orderId := call.orderId
  fragmentIndex := call.fragmentIndex
  resolver := call.resolver
  fillAmount := call.fillAmount
  auctionPrice := call.fillAmount
  gasCost := gasEstimate
  secretHash := call.secretHash
  merkleProof := call.merkleProof
  status := .pending
  executedAt := call.now

structure FillResult where
  execution : FillExecution
  progress : FillProgress
  nextRecommendation : Option FillRecommendation
  deriving DecidableEq

def State.record (s : State) (call : Call) : State :=
  { s with
    fillExecutions := update s.fillExecutions call.orderId
      (s.fillExecutions call.orderId ++ [call.execution]) }

/-- `completeOrder` -/
def State.complete (s : State) (orderId : String) (now : ℚ) : State :=
  match s.orders orderId with
  | some order =>
      { s with
        orders := update s.orders orderId
          (some { order with status := .completed, updatedAt := now }) }
  | none => s

/-- What follows the record of a fill. -/
def afterFill (call : Call) (s : State) : Except Error (FillResult) := do
  let progress ← calculateFillProgress call.now call.orderId s
  let nextRecommendation ← generateFillRecommendation call.now call.orderId progress s
  return ⟨call.execution, progress, nextRecommendation⟩

/-- The state after the call, and its result. A call that throws late has left its record. -/
def executePartialFill (call : Call) (s : State) : State × Except Error FillResult :=
  match s.orders call.orderId, s.merkleManagers call.orderId with
  | some _, some _ =>
      match validateFill E s call with
      | .error e => (s, .error e)
      | .ok (.invalid error) => (s, .error (.error ("Fill validation failed: " ++ error)))
      | .ok (.valid _ _ _) =>
          let s := s.record call
          match afterFill call s with
          | .error e => (s, .error e)
          | .ok result =>
              (if 100 ≤ result.progress.fillPercentage then
                s.complete call.orderId call.now else s, .ok result)
  | _, _ => (s, .error (.error "Order not found"))

def run (call : Call) (s : State) : State :=
  (executePartialFill E call s).1

/-! ## Accepted fills -/

def accepts (s : State) (call : Call) : Bool :=
  (executePartialFill E call s).2.isOk

/-- The calls that are accepted, in turn. -/
def acceptedCalls : List Call → State → List Call
  | [], _ => []
  | call :: calls, s =>
    let rest := acceptedCalls calls (run E call s)
    if accepts E s call then call :: rest else rest

/-- The amount of a fill. -/
def Call.amount (call : Call) : ℤ :=
  (parseBigInt call.fillAmount).getD 0

/-- The fills are positive, of different fragments, and not more than `total`. -/
structure WithinOrder (total : ℤ) (fills : List Call) : Prop where
  positive : ∀ call ∈ fills, 0 < call.amount
  bounded : (fills.map Call.amount).sum ≤ total
  distinct : (fills.map Call.fragmentIndex).Nodup

end OverSync.PartialFills
