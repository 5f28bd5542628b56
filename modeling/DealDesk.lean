import DealDesk.Text.Blank
import DealDesk.Text.Layout
import DealDesk.Text.Quoted
import DealDesk.Time.Stamp
import DealDesk.Time.DealDate
import DealDesk.Json.Record
import DealDesk.Deal.Position
import DealDesk.Deal.WorkingOrder
import DealDesk.Deal.Confirmation
import DealDesk.Deal.Account
import DealDesk.Number.Decimal.Reader
import DealDesk.Number.Decimal.Double
import DealDesk.Rules.Ticket
import DealDesk.Report.Holdings
import DealDesk.Gateway.Client
import DealDesk.Text.Utf8
import DealDesk.Cipher.Sealing
import DealDesk.Cipher.Base64
import DealDesk.Cipher.Stretch
import DealDesk.Vault.Protection
import DealDesk.Disk.Basic
import DealDesk.Gateway.Login
import DealDesk.Settings.Config
import DealDesk.Command.Run
import DealDesk.Main
import DealDesk.Proofs.Course
import DealDesk.Proofs.Number.Spelling
import DealDesk.Proofs.Cipher.Base64
import DealDesk.Proofs.Disk.Folders
import DealDesk.Proofs.Gateway.Body
import DealDesk.Proofs.Gateway.Client
import DealDesk.Proofs.Gateway.Desk
import DealDesk.Proofs.Gateway.Stores
import DealDesk.Proofs.Gateway.Leaving
import DealDesk.Proofs.Gateway.Terms
import DealDesk.Proofs.Time.Deadline
import DealDesk.Proofs.Vault.Sealed
import DealDesk.Proofs.Vault.Writers
import DealDesk.Proofs.Rules.Opening
import DealDesk.Proofs.Rules.Ticket
import DealDesk.Proofs.Gateway.Renewal
import DealDesk.Proofs.Deal.Wire
import DealDesk.Proofs.Command.Checking
import DealDesk.Proofs.Rules.Fields
import DealDesk.Proofs.Vault.Modes
import DealDesk.Proofs.Vault.Replacing
import DealDesk.Proofs.Command.Session
import DealDesk.Proofs.Rules.Shapes
import DealDesk.Proofs.Gateway.Password
import DealDesk.Proofs.Gateway.Tokens
import DealDesk.Proofs.Gateway.Url
import DealDesk.Proofs.Gateway.Address
import DealDesk.Proofs.Rules.Shared
import DealDesk.Proofs.Gateway.Outcomes
import DealDesk.Proofs.Vault.Key
import DealDesk.Proofs.Settings.Config
import DealDesk.Proofs.Number.Decimal
import DealDesk.Proofs.Time.Field
import DealDesk.Proofs.Time.DealDate
import DealDesk.Proofs.Rules.Format
import DealDesk.Proofs.Gateway.GoodTill
import DealDesk.Proofs.Rules.AtMarket
import DealDesk.Proofs.Report.Level
import DealDesk.Proofs.Session.Countdown
import DealDesk.Proofs.Gateway.Excerpt
import DealDesk.Proofs.Report.Tables
import DealDesk.Proofs.Gateway.Waning
