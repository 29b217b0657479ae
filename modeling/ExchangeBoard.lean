import ExchangeBoard.Main
import ExchangeBoard.Page.Page
import ExchangeBoard.Proofs.Board.Minute
import ExchangeBoard.Proofs.Board.Rows
import ExchangeBoard.Proofs.Command.Ending
import ExchangeBoard.Proofs.Command.Instants
import ExchangeBoard.Proofs.Command.Strictness
import ExchangeBoard.Proofs.Hours.Consistency
import ExchangeBoard.Proofs.Hours.Countdown
import ExchangeBoard.Proofs.Hours.EarlyClose
import ExchangeBoard.Proofs.Hours.Lengths
import ExchangeBoard.Proofs.Hours.Outcomes
import ExchangeBoard.Proofs.Hours.Resolving
import ExchangeBoard.Proofs.Hours.Shut
import ExchangeBoard.Proofs.Hours.Workdays
import ExchangeBoard.Proofs.Journal.SetUp
import ExchangeBoard.Proofs.Page.Showing
import ExchangeBoard.Proofs.Ranking.Independence
import ExchangeBoard.Proofs.Ranking.Meridian
import ExchangeBoard.Proofs.Ranking.Rotation
import ExchangeBoard.Proofs.Ranking.Ways
import ExchangeBoard.Proofs.Register.Acceptance
import ExchangeBoard.Proofs.Register.Blanks
import ExchangeBoard.Proofs.Register.Closures
import ExchangeBoard.Proofs.Register.Isolation
import ExchangeBoard.Proofs.Register.Log
import ExchangeBoard.Proofs.Register.WholeTimes
import ExchangeBoard.Proofs.Sun.Reals
import ExchangeBoard.Proofs.Sun.Totality
