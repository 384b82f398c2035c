import EchonetLite.Frame.Reader
import EchonetLite.Settings.Record
import EchonetLite.Neighbourhood.Conversation
import EchonetLite.Proofs.Frame.RoundTrip
import EchonetLite.Proofs.Frame.Segmentation
import EchonetLite.Proofs.Frame.Conservation
import EchonetLite.Proofs.Frame.Reading
import EchonetLite.Proofs.Frame.Truncation
import EchonetLite.Proofs.Node.Addressing
import EchonetLite.Proofs.Node.Serving
import EchonetLite.Proofs.Node.Answers
import EchonetLite.Proofs.Node.Atomicity
import EchonetLite.Proofs.Node.Listening
import EchonetLite.Proofs.Property.Maps
import EchonetLite.Proofs.Object.Edits
import EchonetLite.Proofs.Object.Maps
import EchonetLite.Proofs.Object.CodeRows
import EchonetLite.Proofs.Object.CodeLists
import EchonetLite.Proofs.Object.Description
import EchonetLite.Proofs.Object.Sizes
import EchonetLite.Proofs.Node.Advertising
import EchonetLite.Proofs.Node.Additions
import EchonetLite.Proofs.Node.SelfDescription
import EchonetLite.Proofs.Node.Manufacturer
import EchonetLite.Proofs.Node.Confinement
import EchonetLite.Proofs.Node.Secrecy
import EchonetLite.Proofs.Node.Encodable
import EchonetLite.Proofs.Node.Announcements
import EchonetLite.Proofs.Node.Steps
import EchonetLite.Proofs.Node.Discovery
import EchonetLite.Proofs.Node.Introduction
import EchonetLite.Proofs.Node.StartStop
import EchonetLite.Proofs.Node.Correlation
import EchonetLite.Proofs.Node.Requests
import EchonetLite.Proofs.Node.Stopping
import EchonetLite.Proofs.Node.Agreement
import EchonetLite.Proofs.Node.Collections
import EchonetLite.Proofs.Node.Replies
import EchonetLite.Proofs.Property.Written
import EchonetLite.Proofs.Node.Discoverability
import EchonetLite.Proofs.Node.WriteRead
import EchonetLite.Proofs.Node.SingleWrites
import EchonetLite.Proofs.Node.Redelivery
import EchonetLite.Proofs.Node.Commutation
import EchonetLite.Proofs.Node.Disclosure
import EchonetLite.Proofs.Property.Canonical
import EchonetLite.Proofs.Node.Lookup
import EchonetLite.Proofs.Net.Binding
import EchonetLite.Proofs.Object.Contents
import EchonetLite.Proofs.Object.Templates
import EchonetLite.Proofs.Object.Changes
import EchonetLite.Proofs.Node.Undecodable
