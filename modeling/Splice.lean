import Splice.Cancellation
import Splice.Main
import Splice.Session
import Splice.Invocation
import Splice.Proofs.PathTemplate.Spacing
import Splice.Proofs.PathTemplate.Execution
import Splice.Proofs.PathTemplate.Concatenation
import Splice.Proofs.Render.Cut
import Splice.Proofs.Reference
import Splice.Proofs.Render.Context
import Splice.Proofs.Dispatch.InnerText
import Splice.Proofs.Render.Deadline
import Splice.Proofs.Render.Exchange
import Splice.Proofs.Aws.Agreement
import Splice.Proofs.Secret.Quoted
import Splice.Proofs.Secret.FlatObject
import Splice.Proofs.Secret.Selection
import Splice.Proofs.Cancellation.Answers
import Splice.Proofs.Render.Account
import Splice.Proofs.Render.Stable
import Splice.Proofs.Render.Confidential
import Splice.Proofs.FileTree
import Splice.Proofs.Invocation
import Splice.Proofs.Reference.Encoding
import Splice.Proofs.PathTemplate.Lowering
import Splice.Proofs.Render.Warning
import Splice.Proofs.Render.Disclosure
import Splice.Proofs.CommandLine.Words
import Splice.Proofs.CommandLine.Choice
import Splice.Proofs.Aws.Lookup
import Splice.Proofs.Aws.Startup
