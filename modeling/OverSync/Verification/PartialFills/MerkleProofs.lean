import OverSync.Verification.PartialFills.Schedule

/-! # Which proofs verify

The proof of a secret lists the siblings from the root down, and the check hashes them in that
order, each to the right of what it has. Going back from the root, the first sibling it hashes
would have to be a leaf, while the first one listed is a child of the root. -/

namespace OverSync.PartialFills

open Library

variable {E : Environment} {secrets : List Secret}

/-! ## Digests -/

/-- `0x` and 32 bytes in lower case. -/
def IsDigest (s : String) : Prop :=
  ∃ bytes : Bytes, bytes.length = 32 ∧ s = "0x" ++ String.ofList (encodeHex bytes)

theorem hexBuffer_prefixed (bytes : Bytes) :
    hexBuffer ("0x" ++ String.ofList (encodeHex bytes)) = bytes := by
  calc
    hexBuffer ("0x" ++ String.ofList (encodeHex bytes)) =
        decodeHex (dropHexPrefix (['0', 'x'] ++ encodeHex bytes)) := by
      rw [hexBuffer, String.toList_append, String.toList_ofList, String.toList_ofList]
    _ = bytes := decodeHex_encodeHex bytes

theorem IsDigest.length {s : String} (h : IsDigest s) : (hexBuffer s).length = 32 := by
  obtain ⟨bytes, hlength, rfl⟩ := h
  rw [hexBuffer_prefixed, hlength]

theorem IsDigest.eq {s s' : String} (h : IsDigest s) (h' : IsDigest s')
    (hbytes : hexBuffer s = hexBuffer s') : s = s' := by
  obtain ⟨bytes, -, rfl⟩ := h
  obtain ⟨bytes', -, rfl⟩ := h'
  rw [hexBuffer_prefixed, hexBuffer_prefixed] at hbytes
  rw [hbytes]

/-- What `combine` hashes. -/
def pairInput (left right : String) : Bytes :=
  hexBuffer left ++ hexBuffer right

theorem pairInput_inj {left right left' right' : String} (hleft : IsDigest left)
    (hright : IsDigest right) (hleft' : IsDigest left') (hright' : IsDigest right')
    (h : pairInput left right = pairInput left' right') : left = left' ∧ right = right' := by
  obtain ⟨hfirst, hsecond⟩ := List.append_inj h (hleft.length.trans hleft'.length.symm)
  exact ⟨hleft.eq hleft' hfirst, hright.eq hright' hsecond⟩

theorem length_pairInput {left right : String} (hleft : IsDigest left) (hright : IsDigest right) :
    (pairInput left right).length = 64 := by
  rw [pairInput, List.length_append, hleft.length, hright.length]

/-- The hash makes digests and has no collision among the inputs. -/
structure CollisionFree (E : Environment) (inputs : List Bytes) : Prop where
  digest : ∀ bytes, IsDigest (E.keccak256 bytes)
  injective : ∀ a ∈ inputs, ∀ b ∈ inputs, E.keccak256 a = E.keccak256 b → a = b

/-! ## What is hashed -/

/-- The tree of the hashes of the secrets. -/
def secretTree (E : Environment) (secrets : List Secret) : Option MerkleNode :=
  (buildLevels E secrets.length (secrets.map fun secret => .leaf secret.hash)).head?

/-- The inputs of the hashes of a tree, without those of its leaves. -/
def MerkleNode.inputs : MerkleNode → List Bytes
  | .leaf _ => []
  | .node _ left none => pairInput left.hash left.hash :: left.inputs
  | .node _ left (some right) => pairInput left.hash right.hash :: (left.inputs ++ right.inputs)

/-- The inputs of the hashes of `computeProofHash`. -/
def foldInputs (E : Environment) : String → List String → List Bytes
  | _, [] => []
  | hash, sibling :: proof =>
    pairInput hash sibling :: foldInputs E (combine E hash sibling) proof

/-- Everything hashed for the secrets, their tree and the check of the proof of index `i`. -/
def hashInputs (E : Environment) (secrets : List Secret) (i : ℕ) : List Bytes :=
  (secrets.map fun secret => hexBuffer secret.secret) ++
    match secretTree E secrets, secrets[i]? with
    | some root, some secret =>
        root.inputs ++
          foldInputs E secret.hash (generateProof root i 0 (secrets.length - 1))
    | _, _ => []

/-- A secret of 32 bytes with its hash. -/
structure Secret.Drawn (E : Environment) (secret : Secret) : Prop where
  hash : secret.hash = hashSecret E secret.secret
  length : (hexBuffer secret.secret).length = 32

/-! ## The shape of the tree -/

/-- `Layered E secrets k node`: below the node are `k` levels, the hashes of secrets at the
bottom. -/
inductive Layered (E : Environment) (secrets : List Secret) : ℕ → MerkleNode → Prop where
  | leaf {secret : Secret} : secret ∈ secrets → Layered E secrets 0 (.leaf secret.hash)
  | lone {k : ℕ} {left : MerkleNode} : Layered E secrets k left →
      Layered E secrets (k + 1) (.node (combine E left.hash left.hash) left none)
  | pair {k : ℕ} {left right : MerkleNode} : Layered E secrets k left →
      Layered E secrets k right →
      Layered E secrets (k + 1) (.node (combine E left.hash right.hash) left (some right))

theorem length_nextLevel (E : Environment) (nodes : List MerkleNode) :
    (nextLevel E nodes).length = (nodes.length + 1) / 2 := by
  induction nodes using nextLevel.induct with
  | case1 left right nodes ih =>
      rw [nextLevel, List.length_cons, ih, List.length_cons, List.length_cons]
      omega
  | case2 left => rw [nextLevel, List.length_singleton, List.length_singleton]
  | case3 => rw [nextLevel, List.length_nil]

theorem nextLevel_layered {k : ℕ} {nodes : List MerkleNode}
    (h : ∀ node ∈ nodes, Layered E secrets k node) :
    ∀ node ∈ nextLevel E nodes, Layered E secrets (k + 1) node := by
  induction nodes using nextLevel.induct with
  | case1 left right nodes ih =>
      rw [List.forall_mem_cons, List.forall_mem_cons] at h
      rw [nextLevel, List.forall_mem_cons]
      exact ⟨.pair h.1 h.2.1, ih h.2.2⟩
  | case2 left =>
      rw [List.forall_mem_singleton] at h
      rw [nextLevel, List.forall_mem_singleton]
      exact .lone h
  | case3 =>
      intro node hnode
      cases hnode

/-- Two nodes or more end in a root with two children; below them is a level for each but the
last one. -/
theorem buildLevels_root {fuel k : ℕ} {nodes : List MerkleNode} (hfuel : nodes.length ≤ fuel)
    (hnodes : ∀ node ∈ nodes, Layered E secrets k node) (htwo : 2 ≤ nodes.length) :
    ∃ left right m, buildLevels E fuel nodes =
        [.node (combine E left.hash right.hash) left (some right)] ∧
      Layered E secrets m left ∧ Layered E secrets m right ∧ k ≤ m ∧
      (3 ≤ nodes.length → k < m) := by
  induction fuel generalizing k nodes with
  | zero => omega
  | succ fuel ih =>
      rw [buildLevels, if_pos (by omega)]
      have hlength := length_nextLevel E nodes
      by_cases hthree : 3 ≤ nodes.length
      · obtain ⟨left, right, m, hbuild, hleft, hright, hle, -⟩ :=
          ih (by omega) (nextLevel_layered hnodes) (by omega)
        exact ⟨left, right, m, hbuild, hleft, hright, by omega, fun _ => by omega⟩
      · obtain ⟨left, right, rfl⟩ := List.length_eq_two.mp (by omega : nodes.length = 2)
        rw [List.forall_mem_cons, List.forall_mem_singleton] at hnodes
        refine ⟨left, right, k, ?_, hnodes.1, hnodes.2, le_rfl, by simp⟩
        cases fuel with
        | zero => rfl
        | succ fuel => rfl

/-! ## Leaves and inner nodes -/

section Collisions

variable {inputs : List Bytes}

theorem Layered.digest {k : ℕ} {node : MerkleNode} (h : Layered E secrets k node)
    (hE : CollisionFree E inputs) (hdrawn : ∀ secret ∈ secrets, secret.Drawn E) :
    IsDigest node.hash := by
  cases h with
  | leaf hsecret =>
      rw [MerkleNode.hash, (hdrawn _ hsecret).hash]
      exact hE.digest _
  | lone => exact hE.digest _
  | pair => exact hE.digest _

/-- The children of an inner node; a lone child stands on both sides. -/
theorem Layered.children {k : ℕ} {node : MerkleNode} (h : Layered E secrets (k + 1) node) :
    ∃ left right, Layered E secrets k left ∧ Layered E secrets k right ∧
      node.hash = E.keccak256 (pairInput left.hash right.hash) ∧
      pairInput left.hash right.hash ∈ node.inputs ∧ ∀ b ∈ left.inputs, b ∈ node.inputs := by
  cases h with
  | @lone _ left hleft =>
      refine ⟨left, left, hleft, hleft, rfl, ?_, fun b hb => ?_⟩
      · rw [MerkleNode.inputs]
        exact List.mem_cons_self
      · rw [MerkleNode.inputs]
        exact List.mem_cons_of_mem _ hb
  | @pair _ left right hleft hright =>
      refine ⟨left, right, hleft, hright, rfl, ?_, fun b hb => ?_⟩
      · rw [MerkleNode.inputs]
        exact List.mem_cons_self
      · rw [MerkleNode.inputs]
        exact List.mem_cons_of_mem _ (List.mem_append_left _ hb)

/-- A leaf is the hash of 32 bytes, any other digest of the tree that of 64. -/
theorem Secret.Drawn.hash_ne {secret : Secret} (h : secret.Drawn E) (hE : CollisionFree E inputs)
    (hsecret : hexBuffer secret.secret ∈ inputs) {left right : String} (hleft : IsDigest left)
    (hright : IsDigest right) (hpair : pairInput left right ∈ inputs) :
    secret.hash ≠ E.keccak256 (pairInput left right) := by
  intro heq
  rw [h.hash] at heq
  have hlength := congrArg List.length (hE.injective _ hsecret _ hpair heq)
  rw [h.length, length_pairInput hleft hright] at hlength
  cases hlength

/-- No inner node has the hash of a secret. -/
theorem Layered.hash_ne {k : ℕ} {node : MerkleNode} (h : Layered E secrets (k + 1) node)
    (hE : CollisionFree E inputs) (hdrawn : ∀ secret ∈ secrets, secret.Drawn E)
    (hinputs : ∀ b ∈ node.inputs, b ∈ inputs) {secret : Secret} (hsecret : secret ∈ secrets)
    (hbytes : hexBuffer secret.secret ∈ inputs) : secret.hash ≠ node.hash := by
  obtain ⟨left, right, hleft, hright, hhash, hpair, -⟩ := h.children
  rw [hhash]
  exact (hdrawn secret hsecret).hash_ne hE hbytes (hleft.digest hE hdrawn)
    (hright.digest hE hdrawn) (hinputs _ hpair)

/-! ## Going back from the root -/

theorem computeProofHash_concat (hash : String) (proof : List String) (sibling : String) :
    computeProofHash E hash (proof ++ [sibling]) =
      E.keccak256 (pairInput (computeProofHash E hash proof) sibling) := by
  rw [computeProofHash, List.foldl_append]
  rfl

theorem foldInputs_concat (hash : String) (proof : List String) (sibling : String) :
    foldInputs E hash (proof ++ [sibling]) =
      foldInputs E hash proof ++ [pairInput (computeProofHash E hash proof) sibling] := by
  induction proof generalizing hash with
  | nil => rfl
  | cons first proof ih => exact congrArg _ (ih (combine E hash first))

theorem computeProofHash_digest (hE : CollisionFree E inputs) {hash : String}
    (hhash : IsDigest hash) (proof : List String) : IsDigest (computeProofHash E hash proof) := by
  rcases List.eq_nil_or_concat proof with rfl | ⟨front, sibling, rfl⟩
  · exact hhash
  · rw [List.concat_eq_append, computeProofHash_concat]
    exact hE.digest _

/-- If hashing a sibling last gives a node, the node has that sibling on the right. -/
theorem last_sibling (hE : CollisionFree E inputs) (hdrawn : ∀ secret ∈ secrets, secret.Drawn E)
    (hbytes : ∀ secret ∈ secrets, hexBuffer secret.secret ∈ inputs) {hash sibling : String}
    (hhash : IsDigest hash) (hsibling : IsDigest sibling) {k : ℕ} {node : MerkleNode}
    (hnode : Layered E secrets k node) (hinputs : ∀ b ∈ node.inputs, b ∈ inputs)
    (hmem : pairInput hash sibling ∈ inputs)
    (heq : E.keccak256 (pairInput hash sibling) = node.hash) :
    ∃ m left right, Layered E secrets m left ∧ Layered E secrets m right ∧
      (∀ b ∈ left.inputs, b ∈ inputs) ∧ hash = left.hash ∧ sibling = right.hash := by
  cases k with
  | zero =>
      cases hnode with
      | leaf hleaf =>
          exact absurd heq.symm ((hdrawn _ hleaf).hash_ne hE (hbytes _ hleaf) hhash hsibling hmem)
  | succ m =>
      obtain ⟨left, right, hleft, hright, hnodehash, hpair, hbelow⟩ := hnode.children
      rw [hnodehash] at heq
      have hinput := hE.injective _ hmem _ (hinputs _ hpair) heq
      obtain ⟨hl, hr⟩ := pairInput_inj hhash hsibling (hleft.digest hE hdrawn)
        (hright.digest hE hdrawn) hinput
      exact ⟨m, left, right, hleft, hright, fun b hb => hinputs b (hbelow b hb), hl, hr⟩

/-- If hashing a proof to a secret gives a node, the first sibling of the proof is a leaf. -/
theorem first_sibling_leaf (hE : CollisionFree E inputs)
    (hdrawn : ∀ secret ∈ secrets, secret.Drawn E)
    (hbytes : ∀ secret ∈ secrets, hexBuffer secret.secret ∈ inputs) {secret : Secret}
    (hsecret : secret ∈ secrets) {first : String} {rest : List String}
    (hproof : ∀ sibling ∈ first :: rest, IsDigest sibling) {k : ℕ} {node : MerkleNode}
    (hnode : Layered E secrets k node) (hinputs : ∀ b ∈ node.inputs, b ∈ inputs)
    (hfold : ∀ b ∈ foldInputs E secret.hash (first :: rest), b ∈ inputs)
    (heq : computeProofHash E secret.hash (first :: rest) = node.hash) :
    ∃ leaf ∈ secrets, first = leaf.hash := by
  have hhash : IsDigest secret.hash := (hdrawn secret hsecret).hash ▸ hE.digest _
  induction rest using List.reverseRecOn generalizing k node with
  | nil =>
      obtain ⟨m, left, right, hleft, hright, hbelow, hl, hr⟩ :=
        last_sibling hE hdrawn hbytes hhash (hproof first List.mem_cons_self) hnode hinputs
          (hfold _ List.mem_cons_self) heq
      -- the secret is a leaf, so its partner is one
      cases m with
      | zero =>
          cases hright with
          | leaf hleaf => exact ⟨_, hleaf, hr⟩
      | succ m =>
          exact absurd hl (hleft.hash_ne hE hdrawn hbelow hsecret (hbytes secret hsecret))
  | append_singleton rest sibling ih =>
      rw [← List.cons_append] at heq hfold hproof
      rw [computeProofHash_concat] at heq
      rw [foldInputs_concat] at hfold
      obtain ⟨m, left, right, hleft, -, hbelow, hl, -⟩ :=
        last_sibling hE hdrawn hbytes (computeProofHash_digest hE hhash _)
          (hproof sibling (by simp)) hnode hinputs (hfold _ (by simp)) heq
      exact ih (fun p hp => hproof p (List.mem_append_left _ hp)) hleft hbelow
        (fun b hb => hfold b (List.mem_append_left _ hb)) hl

theorem generateProof_lone (hash : String) (left : MerkleNode) (leafIndex first last : ℕ) :
    generateProof (.node hash left none) leafIndex first last =
      if first = last then []
      else if leafIndex ≤ (first + last) / 2 then
        generateProof left leafIndex first ((first + last) / 2)
      else [left.hash] := by
  rw [generateProof]
  rfl

theorem generateProof_pair (hash : String) (left right : MerkleNode)
    (leafIndex first last : ℕ) :
    generateProof (.node hash left (some right)) leafIndex first last =
      if first = last then []
      else if leafIndex ≤ (first + last) / 2 then
        right.hash :: generateProof left leafIndex first ((first + last) / 2)
      else left.hash :: generateProof right leafIndex ((first + last) / 2 + 1) last := by
  rw [generateProof]
  rfl

/-- The siblings of a proof are nodes of the tree. -/
theorem generateProof_digest (hE : CollisionFree E inputs)
    (hdrawn : ∀ secret ∈ secrets, secret.Drawn E) {k : ℕ} {node : MerkleNode}
    (h : Layered E secrets k node) (leafIndex first last : ℕ) :
    ∀ sibling ∈ generateProof node leafIndex first last, IsDigest sibling := by
  induction h generalizing first last with
  | leaf =>
      intro sibling hsibling
      rw [generateProof] at hsibling
      cases hsibling
  | lone hleft ih =>
      intro sibling hsibling
      rw [generateProof_lone] at hsibling
      split_ifs at hsibling
      · cases hsibling
      · exact ih first _ sibling hsibling
      · rw [List.mem_singleton.mp hsibling]
        exact hleft.digest hE hdrawn
  | pair hleft hright ihleft ihright =>
      intro sibling hsibling
      rw [generateProof_pair] at hsibling
      split_ifs at hsibling
      · cases hsibling
      · rcases List.mem_cons.mp hsibling with rfl | hsibling
        · exact hright.digest hE hdrawn
        · exact ihleft first _ sibling hsibling
      · rcases List.mem_cons.mp hsibling with rfl | hsibling
        · exact hleft.digest hE hdrawn
        · exact ihright _ last sibling hsibling

/-- No proof from a root two levels or more above the leaves hashes to the root: its first
sibling is a child of the root. -/
theorem proof_fails {left right : MerkleNode} {m : ℕ} (hE : CollisionFree E inputs)
    (hdrawn : ∀ secret ∈ secrets, secret.Drawn E)
    (hbytes : ∀ secret ∈ secrets, hexBuffer secret.secret ∈ inputs) {secret : Secret}
    (hsecret : secret ∈ secrets) (hleft : Layered E secrets (m + 1) left)
    (hright : Layered E secrets (m + 1) right) {leafIndex last : ℕ} (hlast : 0 < last)
    (hinputs : ∀ b ∈ (MerkleNode.node (combine E left.hash right.hash) left
      (some right)).inputs, b ∈ inputs)
    (hfold : ∀ b ∈ foldInputs E secret.hash (generateProof
      (.node (combine E left.hash right.hash) left (some right)) leafIndex 0 last), b ∈ inputs) :
    computeProofHash E secret.hash (generateProof
      (.node (combine E left.hash right.hash) left (some right)) leafIndex 0 last) ≠
        combine E left.hash right.hash := by
  have hroot : Layered E secrets (m + 2)
      (.node (combine E left.hash right.hash) left (some right)) := .pair hleft hright
  have hproof := generateProof_digest hE hdrawn hroot leafIndex 0 last
  rw [MerkleNode.inputs] at hinputs
  have hfirst : ∃ child rest, generateProof (.node (combine E left.hash right.hash) left
      (some right)) leafIndex 0 last = child :: rest ∧
      ∀ leaf ∈ secrets, child ≠ leaf.hash := by
    rw [generateProof_pair, if_neg hlast.ne]
    have hinner : ∀ {node : MerkleNode}, Layered E secrets (m + 1) node →
        (∀ b ∈ node.inputs, b ∈ inputs) → ∀ leaf ∈ secrets, node.hash ≠ leaf.hash :=
      fun hnode hbelow leaf hleaf =>
        (hnode.hash_ne hE hdrawn hbelow hleaf (hbytes leaf hleaf)).symm
    split
    · exact ⟨_, _, rfl, hinner hright fun b hb => hinputs b (by simp [hb])⟩
    · exact ⟨_, _, rfl, hinner hleft fun b hb => hinputs b (by simp [hb])⟩
  obtain ⟨child, rest, hlist, hchild⟩ := hfirst
  rw [hlist] at hfold hproof ⊢
  intro heq
  obtain ⟨leaf, hleaf, hsame⟩ := first_sibling_leaf hE hdrawn hbytes hsecret hproof hroot
    (by rwa [MerkleNode.inputs]) hfold heq
  exact hchild leaf hleaf hsame

end Collisions

/-! ## Verifying the proof of a secret -/

theorem buildTree_scheduled (E : Environment) (total : ℤ) (secrets : List Secret) :
    buildTree E (scheduled total 0 0 secrets) = secretTree E secrets := by
  have hleaves : ((scheduled total 0 0 secrets).map fun leaf => MerkleNode.leaf leaf.secretHash) =
      secrets.map fun secret => MerkleNode.leaf secret.hash := by
    calc
      _ = ((scheduled total 0 0 secrets).map MerkleLeaf.secretHash).map MerkleNode.leaf := by
        rw [List.map_map]
        rfl
      _ = (secrets.map Secret.hash).map MerkleNode.leaf := by rw [map_secretHash_scheduled]
      _ = secrets.map fun secret => MerkleNode.leaf secret.hash := by
        rw [List.map_map]
        rfl
  rw [buildTree, secretTree, hleaves, length_scheduled]

theorem element_natCast {α : Type} (xs : List α) (i : ℕ) : element xs i = xs[i]? := by
  rw [element, if_pos ⟨Rat.den_natCast i, Nat.cast_nonneg i⟩, Rat.num_natCast, Int.toNat_natCast]

/-- The check of the proof of a secret, in terms of the root of the tree. -/
theorem verifyProof_scheduledTree {config : PartialFillConfig} {total : ℤ} {i : ℕ}
    (hi : i < secrets.length) {root : MerkleNode} (hroot : secretTree E secrets = some root) :
    verifyProof E (scheduledTree E config secrets total) i secrets[i].hash
        ((scheduledTree E config secrets total).getProof i)
        (scheduledTree E config secrets total).merkleRoot = true ↔
      computeProofHash E secrets[i].hash (generateProof root i 0 (secrets.length - 1)) =
        root.hash := by
  have hhashes : (scheduledTree E config secrets total).leaves.map MerkleLeaf.secretHash =
      secrets.map Secret.hash :=
    List.map_map.trans (map_secretHash_scheduled total 0 0 secrets)
  have hlength : (scheduledTree E config secrets total).leaves.length = secrets.length :=
    (List.length_map _).trans (length_scheduled total 0 0 secrets)
  have hroot' : (scheduledTree E config secrets total).root = some root :=
    (buildTree_scheduled E total secrets).trans hroot
  have hleaf := congrArg (fun hashes => hashes[i]?) hhashes
  simp only [List.getElem?_map, List.getElem?_eq_getElem hi, Option.map_some] at hleaf
  obtain ⟨leaf, helement, hhash⟩ := Option.map_eq_some_iff.mp hleaf
  rw [verifyProof, element_natCast, helement, MerkleTreeSecrets.getProof,
    MerkleTreeSecrets.merkleRoot, hroot', hlength]
  simp only [hhash, true_and, decide_eq_true_eq, if_neg (Nat.not_le.mpr hi)]

/-- Of two secrets the sibling of the second is hashed on the wrong side. -/
theorem swapped_iff {inputs : List Bytes} (hE : CollisionFree E inputs) {first second : Secret}
    (hfirst : first.Drawn E) (hsecond : second.Drawn E)
    (hpair : pairInput first.hash second.hash ∈ inputs)
    (hswapped : pairInput second.hash first.hash ∈ inputs) :
    combine E second.hash first.hash = combine E first.hash second.hash ↔
      first.hash = second.hash := by
  have hdigest : ∀ {secret : Secret}, secret.Drawn E → IsDigest secret.hash :=
    fun hdrawn => hdrawn.hash ▸ hE.digest _
  constructor
  · intro heq
    exact (pairInput_inj (hdigest hsecond) (hdigest hfirst) (hdigest hfirst) (hdigest hsecond)
      (hE.injective _ hswapped _ hpair heq)).2
  · intro heq
    rw [heq]

theorem secretTree_one (secret : Secret) :
    secretTree E [secret] = some (.leaf secret.hash) :=
  rfl

theorem secretTree_two (first second : Secret) :
    secretTree E [first, second] = some (.node (combine E first.hash second.hash)
      (.leaf first.hash) (some (.leaf second.hash))) :=
  rfl

theorem second_of_two_iff {first second : Secret} (hfirst : first.Drawn E)
    (hsecond : second.Drawn E) (hE : CollisionFree E (hashInputs E [first, second] 1)) :
    computeProofHash E second.hash (generateProof (.node (combine E first.hash second.hash)
        (.leaf first.hash) (some (.leaf second.hash))) 1 0 1) =
      combine E first.hash second.hash ↔ first.hash = second.hash := by
  refine swapped_iff hE hfirst hsecond ?_ ?_
  · simp [hashInputs, secretTree_two, MerkleNode.inputs, MerkleNode.hash]
  · simp [hashInputs, secretTree_two, MerkleNode.hash, generateProof, foldInputs]

/-- Of three secrets or more no proof verifies. -/
theorem many_secrets_fail (hthree : 3 ≤ secrets.length)
    (hdrawn : ∀ secret ∈ secrets, secret.Drawn E) {i : ℕ} (hi : i < secrets.length)
    (hE : CollisionFree E (hashInputs E secrets i)) :
    ∃ root, secretTree E secrets = some root ∧
      computeProofHash E secrets[i].hash (generateProof root i 0 (secrets.length - 1)) ≠
        root.hash := by
  have hleaves : ∀ node ∈ secrets.map fun secret => MerkleNode.leaf secret.hash,
      Layered E secrets 0 node := by
    intro node hnode
    obtain ⟨secret, hsecret, rfl⟩ := List.mem_map.mp hnode
    exact .leaf hsecret
  have hlength : (secrets.map fun secret => MerkleNode.leaf secret.hash).length =
      secrets.length := List.length_map _
  obtain ⟨left, right, m, hbuild, hleft, hright, -, hm⟩ :=
    buildLevels_root hlength.le hleaves (by omega)
  obtain ⟨m, rfl⟩ := Nat.exists_eq_succ_of_ne_zero (hm (by omega)).ne'
  have htree : secretTree E secrets =
      some (.node (combine E left.hash right.hash) left (some right)) := by
    rw [secretTree, hbuild]
    rfl
  rw [hashInputs, htree, List.getElem?_eq_getElem hi] at hE
  refine ⟨_, htree, proof_fails hE hdrawn (fun secret hsecret => ?_) (List.getElem_mem hi) hleft
    hright (by omega) (fun b hb => ?_) (fun b hb => ?_)⟩
  · exact List.mem_append_left _ (List.mem_map_of_mem hsecret)
  · exact List.mem_append_right _ (List.mem_append_left _ hb)
  · exact List.mem_append_right _ (List.mem_append_right _ hb)

/-- Without collisions the proof of secret `i` verifies exactly if there is one secret, or there
are two and the first is meant or both have the same hash. -/
theorem merkle_proof_verifies_iff (E : Environment) (config : PartialFillConfig)
    (secrets : List Secret) (totalAmount : String) (total : ℤ)
    (htotal : parseBigInt totalAmount = some total)
    (hwhole : ∀ secret ∈ secrets, secret.fillPercentage.den = 1)
    (hdrawn : ∀ secret ∈ secrets, secret.Drawn E) (i : ℕ) (hi : i < secrets.length)
    (hE : CollisionFree E (hashInputs E secrets i)) :
    ∃ tree, createMerkleTree E config secrets totalAmount = .ok tree ∧
      (verifyProof E tree i secrets[i].hash (tree.getProof i) tree.merkleRoot = true ↔
        secrets.length = 1 ∨ secrets.length = 2 ∧
          (i = 0 ∨ (secrets.map Secret.hash).Pairwise fun hash hash' => hash = hash')) := by
  refine ⟨_, (createMerkleTree_eq_ok htotal).mpr ⟨hwhole, rfl⟩, ?_⟩
  rcases (by omega : secrets.length = 1 ∨ secrets.length = 2 ∨ 3 ≤ secrets.length) with
    hone | htwo | hthree
  · obtain ⟨secret, rfl⟩ := List.length_eq_one_iff.mp hone
    obtain rfl : i = 0 := by omega
    rw [verifyProof_scheduledTree hi (secretTree_one secret)]
    exact iff_of_true rfl (Or.inl rfl)
  · obtain ⟨first, second, rfl⟩ := List.length_eq_two.mp htwo
    rw [verifyProof_scheduledTree hi (secretTree_two first second)]
    rcases (by omega : i = 0 ∨ i = 1) with rfl | rfl
    · exact iff_of_true rfl (Or.inr ⟨rfl, Or.inl rfl⟩)
    · refine (second_of_two_iff (hdrawn first (by simp)) (hdrawn second (by simp)) hE).trans ?_
      simp
  · obtain ⟨root, hroot, hfails⟩ := many_secrets_fail hthree hdrawn hi hE
    rw [verifyProof_scheduledTree hi hroot]
    exact iff_of_false hfails (by omega)

/-! The hash on what is hashed for two and for three secrets, of 32 bytes 1, 2 and 3. -/

def ones : Bytes :=
  decodeHex "cebc8882fecbec7fb80d2cf4b312bec018884c2d66667c67a90508214bd8bafc".toList

def twos : Bytes :=
  decodeHex "ee4a079f5b14a24465181d45af32a8053c2d446446d7019359e210b82e53b8ba".toList

def threes : Bytes :=
  decodeHex "4a7a4de37def8e10861261f58e1003e6086df449b615bb411c39669548e19dba".toList

def onesTwos : Bytes :=
  decodeHex "596bf00ace9ca0f06c5f2e307f74f2c1da269fae2461421d15d37b6d0fd565e1".toList

def threesThrees : Bytes :=
  decodeHex "4741ea0fbef0f215e6814bbdcab2a7b5960a64edd49b2348a4624e3f59e7d107".toList

def onesFirst : Bytes :=
  decodeHex "2ae243954b7fc59241b6cf2c707d00de286028cd857c574154a2db97fd37dba6".toList

def digestTable : List (Bytes × Bytes) :=
  [(List.replicate 32 1, ones), (List.replicate 32 2, twos), (List.replicate 32 3, threes),
    (ones ++ twos, onesTwos), (threes ++ threes, threesThrees), (ones ++ threesThrees, onesFirst),
    (twos ++ ones, decodeHex
      "7ff0dc30259e1dfbbc29f34f6f083c51ea6fedc660b308a5f1cbc932038c9f74".toList),
    (onesTwos ++ threesThrees, decodeHex
      "b3f52ad3837b5b855c3d5063833a256b8f0225eea768f3b72372d745c08ab4e6".toList),
    (onesFirst ++ twos, decodeHex
      "4dc28ad32096fa32960018d04101f737f09dcd27537e958e5d826d7f4dcc8a12".toList)]

def tableDigest (bytes : Bytes) : Bytes :=
  match digestTable.find? fun entry => entry.1 = bytes with
  | some entry => entry.2
  | none => List.replicate 32 0

def tableHash : Environment where
  keccak256 := fun bytes => "0x" ++ String.ofList (encodeHex (tableDigest bytes))
  cryptoSecret := fun _ _ => "0x" ++ String.ofList (encodeHex (List.replicate 32 1))

def secretOf (byte : UInt8) (percentage : ℚ) : Secret where
  id := "order"
  index := 0
  secret := "0x" ++ String.ofList (encodeHex (List.replicate 32 byte))
  hash := tableHash.keccak256 (List.replicate 32 byte)
  fillPercentage := percentage
  createdAt := 0

/-- The numbers behind the table, without its strings. -/
theorem digestTable_facts : (digestTable.map fun entry => (entry.1.head?, entry.1[32]?)).Nodup ∧
    (digestTable.map fun entry => entry.2.head?).Nodup ∧
      ∀ entry ∈ digestTable, entry.2.length = 32 := by
  simp only [digestTable, ones, twos, threes, onesTwos, threesThrees, onesFirst]
  iterate 9 rw [String.toList_ofList]
  decide

theorem find?_digestTable {entry : Bytes × Bytes} (h : entry ∈ digestTable) :
    (digestTable.find? fun other => other.1 = entry.1) = some entry := by
  have hsome : (digestTable.find? fun other => other.1 = entry.1).isSome :=
    List.find?_isSome.mpr ⟨entry, h, by simp⟩
  obtain ⟨found, hfound⟩ := Option.isSome_iff_exists.mp hsome
  have hkey : found.1 = entry.1 := by simpa using List.find?_some hfound
  have hsame := List.inj_on_of_nodup_map digestTable_facts.1 (List.mem_of_find?_eq_some hfound) h
  rw [hfound, hsame (by rw [hkey])]

theorem tableDigest_of_mem {bytes digest : Bytes} (h : (bytes, digest) ∈ digestTable) :
    tableDigest bytes = digest := by
  rw [tableDigest, find?_digestTable h]

theorem tableHash_digest (bytes : Bytes) : IsDigest (tableHash.keccak256 bytes) := by
  refine ⟨tableDigest bytes, ?_, rfl⟩
  unfold tableDigest
  split
  · rename_i entry hentry
    exact digestTable_facts.2.2 entry (List.mem_of_find?_eq_some hentry)
  · rfl

theorem collisionFree_of_keys {inputs : List Bytes}
    (h : inputs ⊆ digestTable.map Prod.fst) :
    CollisionFree tableHash inputs where
  digest := tableHash_digest
  injective := by
    intro a ha b hb heq
    obtain ⟨entry, hentry, rfl⟩ := List.mem_map.mp (h ha)
    obtain ⟨entry', hentry', rfl⟩ := List.mem_map.mp (h hb)
    have hbytes := congrArg hexBuffer heq
    simp only [tableHash, hexBuffer_prefixed, tableDigest_of_mem hentry,
      tableDigest_of_mem hentry'] at hbytes
    have hsame := List.inj_on_of_nodup_map digestTable_facts.2.1 hentry hentry'
    exact congrArg Prod.fst (hsame (by rw [hbytes]))

theorem secretOf_buffer (byte : UInt8) (percentage : ℚ) :
    hexBuffer (secretOf byte percentage).secret = List.replicate 32 byte :=
  hexBuffer_prefixed _

theorem secretOf_drawn (byte : UInt8) (percentage : ℚ) :
    (secretOf byte percentage).Drawn tableHash := by
  refine ⟨?_, by rw [secretOf_buffer, List.length_replicate]⟩
  rw [hashSecret, secretOf_buffer]
  rfl

/-- The bytes of the hash of a secret. -/
theorem hexBuffer_secretOf {byte : UInt8} {digest : Bytes} (percentage : ℚ)
    (h : (List.replicate 32 byte, digest) ∈ digestTable) :
    hexBuffer (secretOf byte percentage).hash = digest :=
  (hexBuffer_prefixed _).trans (tableDigest_of_mem h)

theorem hexBuffer_combine {left right : String} {digest : Bytes}
    (h : (hexBuffer left ++ hexBuffer right, digest) ∈ digestTable) :
    hexBuffer (combine tableHash left right) = digest :=
  (hexBuffer_prefixed _).trans (tableDigest_of_mem h)

def threeSecrets : List Secret :=
  [secretOf 1 33, secretOf 2 33, secretOf 3 34]

theorem threeSecrets_inputs :
    hashInputs tableHash threeSecrets 0 ⊆ digestTable.map Prod.fst := by
  have hones : hexBuffer (secretOf 1 33).hash = ones := hexBuffer_secretOf 33 (by simp [digestTable])
  have htwos : hexBuffer (secretOf 2 33).hash = twos := hexBuffer_secretOf 33 (by simp [digestTable])
  have hthrees : hexBuffer (secretOf 3 34).hash = threes :=
    hexBuffer_secretOf 34 (by simp [digestTable])
  have hleft : hexBuffer (combine tableHash (secretOf 1 33).hash (secretOf 2 33).hash) = onesTwos :=
    hexBuffer_combine (by rw [hones, htwos]; simp [digestTable])
  have hright : hexBuffer (combine tableHash (secretOf 3 34).hash (secretOf 3 34).hash) =
      threesThrees :=
    hexBuffer_combine (by rw [hthrees]; simp [digestTable])
  have hfirst : hexBuffer (combine tableHash (secretOf 1 33).hash
      (combine tableHash (secretOf 3 34).hash (secretOf 3 34).hash)) = onesFirst :=
    hexBuffer_combine (by rw [hones, hright]; simp [digestTable])
  have hinputs : hashInputs tableHash threeSecrets 0 = [List.replicate 32 1, List.replicate 32 2,
      List.replicate 32 3, onesTwos ++ threesThrees, ones ++ twos, threes ++ threes,
      ones ++ threesThrees, onesFirst ++ twos] := by
    simp [hashInputs, threeSecrets, secretTree, buildLevels, nextLevel, MerkleNode.inputs,
      MerkleNode.hash, generateProof, foldInputs, pairInput, secretOf_buffer, hones, htwos, hthrees,
      hleft, hright, hfirst]
  rw [hinputs]
  simp [digestTable]

theorem merkle_proof_of_three :
    ∃ tree, createMerkleTree tableHash (inParts 3) threeSecrets "100" = .ok tree ∧
      (verifyProof tableHash tree (0 : ℕ) (secretOf 1 33).hash (tree.getProof 0)
          tree.merkleRoot = true ↔
        threeSecrets.length = 1 ∨ threeSecrets.length = 2 ∧
          (0 = 0 ∨ (threeSecrets.map Secret.hash).Pairwise fun hash hash' => hash = hash')) := by
  refine merkle_proof_verifies_iff tableHash (inParts 3) threeSecrets "100" 100 (by decide)
    (by decide) ?_ 0 (by decide) (collisionFree_of_keys threeSecrets_inputs)
  simp [threeSecrets, secretOf_drawn]

theorem twoSecrets_inputs :
    hashInputs tableHash [secretOf 1 50, secretOf 2 50] 1 ⊆ digestTable.map Prod.fst := by
  have hones : hexBuffer (secretOf 1 50).hash = ones := hexBuffer_secretOf 50 (by simp [digestTable])
  have htwos : hexBuffer (secretOf 2 50).hash = twos := hexBuffer_secretOf 50 (by simp [digestTable])
  have hinputs : hashInputs tableHash [secretOf 1 50, secretOf 2 50] 1 = [List.replicate 32 1,
      List.replicate 32 2, ones ++ twos, twos ++ ones] := by
    simp [hashInputs, secretTree_two, MerkleNode.inputs, MerkleNode.hash, generateProof,
      foldInputs, pairInput, secretOf_buffer, hones, htwos]
  rw [hinputs]
  simp [digestTable]

/-- The proof of the second of two secrets does not verify. -/
theorem second_proof_fails :
    let secrets := [secretOf 1 50, secretOf 2 50]
    CollisionFree tableHash (hashInputs tableHash secrets 1) ∧
      ∃ tree, createMerkleTree tableHash (inParts 2) secrets "100" = .ok tree ∧
        verifyProof tableHash tree (1 : ℕ) (secretOf 2 50).hash (tree.getProof 1)
          tree.merkleRoot = false := by
  have hfree := collisionFree_of_keys twoSecrets_inputs
  refine ⟨hfree, _, (createMerkleTree_eq_ok (show parseBigInt "100" = some 100 by
    decide)).mpr ⟨by simp [secretOf], rfl⟩, ?_⟩
  rw [← Bool.not_eq_true]
  intro hverifies
  have hroot := (verifyProof_scheduledTree (show 1 < 2 by decide)
    (secretTree_two (secretOf 1 50) (secretOf 2 50))).mp hverifies
  have hsame := (second_of_two_iff (secretOf_drawn 1 50) (secretOf_drawn 2 50) hfree).mp hroot
  have hbytes := congrArg hexBuffer hsame
  have hones : hexBuffer (secretOf 1 50).hash = ones := hexBuffer_secretOf 50 (by simp [digestTable])
  have htwos : hexBuffer (secretOf 2 50).hash = twos := hexBuffer_secretOf 50 (by simp [digestTable])
  rw [hones, htwos, ones, twos, String.toList_ofList, String.toList_ofList] at hbytes
  exact absurd hbytes (by decide)

end OverSync.PartialFills
