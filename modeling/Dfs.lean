import Dfs.Address.Basic
import Dfs.Address.Parser
import Dfs.Address.Printer
import Dfs.Client.Basic
import Dfs.Client.Commands
import Dfs.Cluster.Basic
import Dfs.Cluster.Conversation
import Dfs.Cluster.Network
import Dfs.Cluster.Serving
import Dfs.Cluster.Start
import Dfs.CommandLine.Action
import Dfs.CommandLine.Run
import Dfs.CommandLine.Words
import Dfs.Config.Basic
import Dfs.Config.File
import Dfs.Disk.Basic
import Dfs.Disk.Content
import Dfs.Disk.Fault
import Dfs.Disk.OpenFile
import Dfs.Disk.Operations
import Dfs.Endpoints
import Dfs.Error
import Dfs.Failure
import Dfs.Handle
import Dfs.Json.Basic
import Dfs.Json.Bytes
import Dfs.Json.Magnitude
import Dfs.Json.Printer
import Dfs.Json.Reader
import Dfs.Json.Token
import Dfs.LogLevel
import Dfs.Main
import Dfs.Message.Reply
import Dfs.Message.Request
import Dfs.Namespace
import Dfs.Naming.Interfaces
import Dfs.Naming.Registry
import Dfs.Path.Basic
import Dfs.Path.Cursor
import Dfs.Path.Host
import Dfs.Path.Name
import Dfs.SortedSet
import Dfs.Store.Basic
import Dfs.Store.Interfaces
import Dfs.Store.Inventory
import Dfs.Store.Prune
import Dfs.Text.Blank
import Dfs.Text.Hidden
import Dfs.Text.Literal
import Dfs.Text.Utf8
import Dfs.Transport.Call
import Dfs.Transport.Connection
import Dfs.Transport.Frame
import Dfs.Tree
import Dfs.Yaml.Node
import Dfs.Yaml.Scalar
import Dfs.Yaml.Source
import Dfs.Yaml.Token
import Dfs.Proofs.Except
import Dfs.Proofs.Tree
import Dfs.Proofs.Namespace
import Dfs.Proofs.Naming.Registration
import Dfs.Proofs.Naming.Changes
import Dfs.Proofs.Naming.Ownership
import Dfs.Proofs.Naming.Handles
import Dfs.Proofs.Text.Digits
import Dfs.Proofs.Text.Utf8
import Dfs.Proofs.Json.Reader
import Dfs.Proofs.Address
import Dfs.Proofs.Message.Parts
import Dfs.Proofs.Message.Request
import Dfs.Proofs.Message.Reply
import Dfs.Proofs.Message.Length
import Dfs.Proofs.Transport
import Dfs.Proofs.Exchange
import Dfs.Proofs.Path.Host
import Dfs.Proofs.Path.Relative
import Dfs.Proofs.Path.Mapping
import Dfs.Proofs.Disk.Resolve
import Dfs.Proofs.Tree.Order
import Dfs.Proofs.Tree.Edit
import Dfs.Proofs.Namespace.Order
import Dfs.Proofs.Namespace.Insertion
import Dfs.Proofs.Namespace.Removal
import Dfs.Proofs.Naming.Coherence
import Dfs.Proofs.Naming.Creation
import Dfs.Proofs.Naming.Deletion
import Dfs.Proofs.Naming.Placement
import Dfs.Proofs.Naming.Commutation
import Dfs.Proofs.Disk.Within
import Dfs.Proofs.Disk.Served
import Dfs.Proofs.Disk.Changes
import Dfs.Proofs.Disk.Rewriting
import Dfs.Proofs.Disk.OpenFile
import Dfs.Proofs.Disk.Directories
import Dfs.Proofs.Disk.Frontier
import Dfs.Proofs.Disk.Room
import Dfs.Proofs.Disk.Removal
import Dfs.Proofs.Disk.Empty
import Dfs.Proofs.Disk.Detours
import Dfs.Proofs.Store.Writing
import Dfs.Proofs.Store.Commands
import Dfs.Proofs.Store.Contents
import Dfs.Proofs.Store.Transfer
import Dfs.Proofs.Store.Creation
import Dfs.Proofs.Store.Inventory
import Dfs.Proofs.Path.Grammar
import Dfs.Proofs.Store.Clearing
import Dfs.Proofs.Store.Sweep
import Dfs.Proofs.Store.Prune
import Dfs.Proofs.Store.Effects
import Dfs.Proofs.Store.Failed
import Dfs.Proofs.Store.Missing
import Dfs.Proofs.Store.Listing
import Dfs.Proofs.Store.Tending
import Dfs.Proofs.Cluster.Sites
import Dfs.Proofs.Cluster.Calls
import Dfs.Proofs.Cluster.Start
import Dfs.Proofs.Cluster.Restart
import Dfs.Proofs.Cluster.Commands
import Dfs.Proofs.Cluster.Agreement
import Dfs.Proofs.Cluster.Alone
import Dfs.Proofs.Cluster.Remote
import Dfs.Proofs.Cluster.Isolation
import Dfs.Proofs.Cluster.Creation
import Dfs.Proofs.Cluster.FailedStart
import Dfs.Proofs.Cluster.Hops
import Dfs.Proofs.Cluster.Advertise
import Dfs.Proofs.CommandLine.Override
import Dfs.Proofs.Transport.Frames
import Dfs.Proofs.Client.Basic
import Dfs.Proofs.Client.Directories
import Dfs.Proofs.Client.FailedWrite
import Dfs.Proofs.Client.Reading
import Dfs.Proofs.Client.Creating
import Dfs.Proofs.Client.Writing
import Dfs.Proofs.Text.Order
import Dfs.Proofs.Path.Order
import Dfs.Proofs.Naming.Queries
import Dfs.Proofs.Client.Listing
import Dfs.Proofs.Message.Spelling
