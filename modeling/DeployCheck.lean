import DeployCheck.Main
import DeployCheck.Proofs.Bytecode.Display
import DeployCheck.Proofs.Bytecode.Listing
import DeployCheck.Proofs.Bytecode.Verdict
import DeployCheck.Proofs.Bytecode.FullMatch
import DeployCheck.Proofs.Abi.Types
import DeployCheck.Proofs.Bytecode.Tolerance
import DeployCheck.Proofs.Abi.Words
import DeployCheck.Proofs.Abi.Arguments
import DeployCheck.Proofs.Bytecode.Decomposition
import DeployCheck.Proofs.LineDiff.Patch
import DeployCheck.Proofs.Review.Texts
import DeployCheck.Proofs.Verification.Run
import DeployCheck.Proofs.Repository.BreadthFirst
import DeployCheck.Proofs.Repository.Search
import DeployCheck.Proofs.Repository.Links
import DeployCheck.Proofs.Repository.Recursion
import DeployCheck.Proofs.Compiler.Cache
import DeployCheck.Proofs.Calls
import DeployCheck.Proofs.Deployments
import DeployCheck.Proofs.Compiler.Compilation
import DeployCheck.Proofs.Verification.Growth
import DeployCheck.Proofs.Verification.Evidence
import DeployCheck.Proofs.Repository.Contents
import DeployCheck.Proofs.Bytecode.Independence
import DeployCheck.Proofs.Text.StrictHex
import DeployCheck.Proofs.Abi.Conformance
import DeployCheck.Proofs.Abi.Canonical
import DeployCheck.Proofs.Bytecode.Differences
import DeployCheck.Proofs.Abi.Kinds
import DeployCheck.Proofs.Review.Pages
import DeployCheck.Proofs.Source.StandardInput
import DeployCheck.Proofs.Repository.Dependencies
import DeployCheck.Proofs.CommandLine.Runs
import DeployCheck.Proofs.Verification.Toolchain
import DeployCheck.Proofs.Verification.Token
import DeployCheck.Proofs.Bytecode.Widening
import DeployCheck.Proofs.CommandLine.Arguments
import DeployCheck.Proofs.CommandLine.Comparisons
import DeployCheck.Proofs.Bytecode.Concatenation
import DeployCheck.Proofs.Text.HexGrammar
import DeployCheck.Proofs.Bytecode.Colors
import DeployCheck.Proofs.Bytecode.Recovery
import DeployCheck.Proofs.Source.Answers
import DeployCheck.Proofs.Source.Listings
import DeployCheck.Proofs.Compiler.Errors
import DeployCheck.Proofs.Source.Settings
import DeployCheck.Proofs.ConstructorData
import DeployCheck.Proofs.LineDiff.Markup
import DeployCheck.Proofs.NodeAddresses
import DeployCheck.Proofs.Abi.Spellings
import DeployCheck.Proofs.Review.Rows
import DeployCheck.Proofs.Abi.KindGrammar
import DeployCheck.Proofs.Abi.Signs
import DeployCheck.Proofs.Review.Columns
