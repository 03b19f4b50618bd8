import Bookmarks.Server.Call
import Bookmarks.Sorting.Lemmas
import Bookmarks.Proofs.Fault
import Bookmarks.Proofs.Page
import Bookmarks.Proofs.Page.Paging
import Bookmarks.Proofs.Division
import Bookmarks.Proofs.Positions
import Bookmarks.Proofs.Text.Trim
import Bookmarks.Proofs.Text.Digits
import Bookmarks.Proofs.Text.LetterCase
import Bookmarks.Proofs.Text.Lower
import Bookmarks.Proofs.Text.Context
import Bookmarks.Proofs.Number.Range
import Bookmarks.Proofs.Number.Order
import Bookmarks.Proofs.Number.Overflow
import Bookmarks.Proofs.Time.Iso
import Bookmarks.Proofs.Time.Elapsed
import Bookmarks.Proofs.Json.Digits
import Bookmarks.Proofs.Query.Tokens
import Bookmarks.Proofs.Query.Written
import Bookmarks.Proofs.Query.Render
import Bookmarks.Proofs.Query.Items
import Bookmarks.Proofs.Query.Grammar
import Bookmarks.Proofs.Query.Days
import Bookmarks.Proofs.Query.Characters
import Bookmarks.Proofs.Query.LetterCase
import Bookmarks.Proofs.Filter.Bounded
import Bookmarks.Proofs.Filter.Meaning
import Bookmarks.Proofs.Filter.Admits
import Bookmarks.Proofs.Filter.Pieces
import Bookmarks.Proofs.Filter.Occurrence
import Bookmarks.Proofs.Filter.Congr
import Bookmarks.Proofs.Filter.Pass
import Bookmarks.Proofs.Filter.SearchTexts
import Bookmarks.Proofs.Filter.Ranking
import Bookmarks.Proofs.Filter.Outcome
import Bookmarks.Proofs.Filter.Total
import Bookmarks.Proofs.Filter.Narrowing
import Bookmarks.Proofs.Filter.WordOrder
import Bookmarks.Proofs.Filter.Positions
import Bookmarks.Proofs.Filter.SingleWord
import Bookmarks.Proofs.Filter.Negation
import Bookmarks.Proofs.Filter.Ages
import Bookmarks.Proofs.Filter.LetterCase
import Bookmarks.Proofs.Filter.Pointwise
import Bookmarks.Proofs.Filter.TagSearch
import Bookmarks.Proofs.Url.Authority
import Bookmarks.Proofs.Url.Domain
import Bookmarks.Proofs.Url.Foreign
import Bookmarks.Proofs.Relevance.Distribution
import Bookmarks.Proofs.Relevance.Order
import Bookmarks.Proofs.Relevance.Overflow
import Bookmarks.Proofs.UserAgent.Platform
import Bookmarks.Proofs.Tag
import Bookmarks.Proofs.Tag.Listing
import Bookmarks.Proofs.Store.Times
import Bookmarks.Proofs.Store.Record
import Bookmarks.Proofs.Store.Reload
import Bookmarks.Proofs.Store.Sound
import Bookmarks.Proofs.Store.Readable
import Bookmarks.Proofs.Store.Account
import Bookmarks.Proofs.Server.Kept
import Bookmarks.Proofs.Server.Request
import Bookmarks.Proofs.Server.Run
import Bookmarks.Proofs.Server.Absent
import Bookmarks.Proofs.Server.Answers
import Bookmarks.Proofs.Server.Listed
import Bookmarks.Proofs.Server.Pages
import Bookmarks.Proofs.Server.Relevant
