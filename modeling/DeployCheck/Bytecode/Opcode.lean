/-!
The opcode table of the machine. Pushes, duplications, exchanges and logs are families numbered
within their range; all other assigned bytes are listed in runs.
-/
namespace DeployCheck.Bytecode

/-- Runs of assigned bytes outside the families: the first byte and the names from there on. -/
def namedRuns : List (Nat × List String) := [
  (0x00, ["STOP", "ADD", "MUL", "SUB", "DIV", "SDIV", "MOD", "SMOD", "ADDMOD", "MULMOD",
    "EXP", "SIGNEXTEND"]),
  (0x10, ["LT", "GT", "SLT", "SGT", "EQ", "ISZERO", "AND", "OR", "XOR", "NOT", "BYTE", "SHL",
    "SHR", "SAR"]),
  (0x20, ["SHA3"]),
  (0x30, ["ADDRESS", "BALANCE", "ORIGIN", "CALLER", "CALLVALUE", "CALLDATALOAD",
    "CALLDATASIZE", "CALLDATACOPY", "CODESIZE", "CODECOPY", "GASPRICE", "EXTCODESIZE",
    "EXTCODECOPY", "RETURNDATASIZE", "RETURNDATACOPY", "EXTCODEHASH", "BLOCKHASH", "COINBASE",
    "TIMESTAMP", "NUMBER", "PREVRANDAO", "GASLIMIT", "CHAINID", "SELFBALANCE", "BASEFEE",
    "BLOBHASH", "BLOBBASEFEE"]),
  (0x50, ["POP", "MLOAD", "MSTORE", "MSTORE8", "SLOAD", "SSTORE", "JUMP", "JUMPI", "PC",
    "MSIZE", "GAS", "JUMPDEST", "TLOAD", "TSTORE", "MCOPY", "PUSH0"]),
  (0xf0, ["CREATE", "CALL", "CALLCODE", "RETURN", "DELEGATECALL", "CREATE2"]),
  (0xfa, ["STATICCALL"]),
  (0xfd, ["REVERT", "INVALID", "SELFDESTRUCT"])]

/-- The families: first byte, last byte, name, and the number of the first member. -/
def families : List (Nat × Nat × String × Nat) :=
  [(0x60, 0x7f, "PUSH", 1), (0x80, 0x8f, "DUP", 1), (0x90, 0x9f, "SWAP", 1), (0xa0, 0xa4, "LOG", 0)]

/-- The name of an assigned byte. -/
def mnemonic? (b : UInt8) : Option String :=
  let n := b.toNat
  let listed := namedRuns.findSome? fun (first, names) =>
    if first ≤ n then names[n - first]? else none
  let numbered := families.findSome? fun (first, last, name, base) =>
    if first ≤ n ∧ n ≤ last then some (name ++ toString (n - first + base)) else none
  listed <|> numbered

/-- What an unassigned byte is shown as. -/
def unassignedName : String := "INVALID"

def mnemonic (b : UInt8) : String := (mnemonic? b).getD unassignedName

/-- Every byte in ascending order. -/
def allBytes : List UInt8 := (List.range 256).map UInt8.ofNat

/-- The byte of a name, in any letter case. -/
def opcodeNamed? (name : String) : Option UInt8 :=
  allBytes.find? fun b => (mnemonic? b).any fun m => m == name.map Char.toUpper

/-- A push that carries data; `PUSH0` carries none. -/
def isPush (b : UInt8) : Bool := 0x60 ≤ b && b ≤ 0x7f

/-- The number of data bytes that an opcode declares. -/
def immediateSize (b : UInt8) : Nat := if isPush b then b.toNat - 0x5f else 0

end DeployCheck.Bytecode
