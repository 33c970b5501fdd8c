import EntitlementRules.Unicode.Packed

/-! What becomes of characters in the names of hosts: most stay, some are left out, replaced by others or
refused. Letters come out in lower case, and variants of a character as the character itself. -/
namespace EntitlementRules.Unicode

inductive Fate where
  | kept
  | ignored
  | refused
  | replaced (characters : List Char)
  deriving Repr, DecidableEq

/-- The characters that are replaced. The values of a single character are those that replace it. The values
of more are a distance and the replacement of the first: each character at that distance from the one before
has a replacement that lies as far from its own. -/
def replacementRuns : List Run := Run.table
  "1T,P,1,2P 1X,0,W 7,0,W,LK 1,0,2P 4,0,W,LG 2,1,1,1E 0,0,W,LD 0,0,QK 2,0,W,MF 0,0,1D 0,0,33
    1,0,1D,6DG,1G 0,0,1D,6DG,1E 0,0,1F,6DG,1G 1,M,1,68 1,6,1,6W X,1A,2,75 1,0,2X,LJ 1,0,2X,2Y
    0,0,2X,2Y 0,2,2,8L 2,4,2,8Q 1,0,30,53 0,0,30,53 0,6,2,8Y 1,0,JG,32 0,18,2,97 1,0,73 0,4,2,AI
    1,0,37 1,0,GJ 0,2,2,AR 1,0,GK 0,0,AW 1,1,1,GM 0,0,B0 2,0,D9 0,0,GP 0,0,GR 0,0,B6 1,0,GW
    0,0,GZ 1,0,H5 0,0,H4 0,0,BD 3,0,HB 0,0,HE 1,0,HH 0,4,2,BL 1,0,HS 0,0,BS 1,0,HV 2,0,BX 1,0,I0
    0,0,C0 1,1,1,I2 0,2,2,C4 1,0,IA 0,0,C9 3,0,CD 7,0,2S,AM 0,0,2S,AM 0,0,2S,AM 0,0,30,2Y
    0,0,30,2Y 0,0,30,2Y 0,0,32,2Y 0,0,32,2Y 0,0,32,2Y 0,E,2,CU 2,G,2,DB 2,0,2S,3E 0,0,2S,3E
    0,0,2S,3E 0,0,DX 1,0,B9 0,0,CF 0,12,2,E1 1,0,BI 1,G,2,F7 7,0,8RP 0,0,FW 1,0,BE 0,0,8RQ
    2,0,G2 1,0,AO 0,0,I1 0,0,I4 0,8,2,G7 2P,0,2W 0,0,H2 0,0,2Y 0,0,36 0,0,HL 0,0,HN 0,0,HT
    0,0,3B 0,0,3D V,0,W,LI 0,0,W,LJ 0,0,W,LM 0,0,W,MG 0,0,W,LF 0,0,W,LN 2,0,GZ 0,0,30 0,0,37
    0,0,3C 0,0,ID 2J,1,1,LC 1,0,LV 0,0,LK,LD 0,0,QH 16,2,2,OH 1,0,JD 1,0,ON 3,0,W,QH 3,0,1N
    0,0,S3 4,0,W,LD 0,0,W,LK,LD 0,0,Q4 0,0,53 0,2,1,Q5 1,0,R0 1,1,1,R1 1,G,1,Q9 1,8,1,QR Z,0,RB
    0,0,QA 0,0,QG 0,0,QT 0,0,R1 0,0,QZ 0,0,QU 0,0,QO 1,M,2,RD 1,0,QI 0,0,QP 0,0,QR 1,0,QG 0,0,QD
    1,0,S8 1,0,QR 0,0,SB 2,2,1,OR 0,F,1,UO 0,V,1,TS 1C,W,2,V5 9,1G,2,WB 1,0,Y7 0,C,2,XU
    2,2M,2,Y9 2,11,1,129 1C,0,12D,136 6L,0,17R,19W 0,0,18O,19W 0,0,1C7,19W 0,0,18Q,19W
    KF,0,1SL,1TO 0,0,1SM,1TO 0,0,1SN,1TO 0,0,1SS,1TO 0,0,1SX,1TO 0,0,1SY,1TO 0,0,1T7,1TO
    0,0,1TB,1TO 3G,0,1WH,1X8 0,0,1WI,1X8 1,0,1WV,1X8 2B,0,20I,20S 2,0,20O,20S Y,0,1ZQ,20S
    0,0,1ZR,20S 0,0,1ZW,20S 2,0,20B,20S 71,0,275,27W 0,0,276,27W K5,0,2TP,2SY 3J,0,2X9,2WI
    14,0,2WB,2VT 0,0,2WB,2W1 1A,0,2YZ 1I,0,30I,33R 9,0,30S,33R 4,0,30X,33R 4,0,312,33R
    4,0,317,33R C,0,30G,33P 9,0,31T,31U 1,0,31T,31W 0,0,33M,328 0,0,33M,31T,328 0,0,33N,328
    0,0,33N,31T,328 7,0,31T,328 H,0,32Q,33R 9,0,330,33R 4,0,335,33R 4,0,33A,33R 4,0,33F,33R
    C,0,32O,33P 6E,11,1,8W0 1,0,8X3 5,0,8X9 1A,0,3BW L7,5,1,3XS 1OI,0,TU 0,0,TW 0,0,U6 0,1,1,U9
    0,0,UA 0,0,UI 0,0,V7 0,0,WUJ 0,0,5MY 6,16,1,3BK 2,2,1,3CT 30,0,2P 0,0,6E 0,2,2,2Q 0,0,2T
    0,0,D9 0,7,1,2V 1,0,33 0,0,F7 0,0,34 0,0,36 0,1,1,38 0,0,3B 0,0,2P 0,1,1,GG 0,0,5QA 0,0,2Q
    0,1,1,2S 0,0,GP 0,1,1,GR 0,0,2V 1,0,2Z 0,0,31 0,0,97 0,0,33 0,0,GK 0,1,1,5QU 0,0,34 0,1,1,38
    0,0,5R1 0,0,HB 0,0,3A 0,0,5R9 0,2,1,QA 0,1,1,QU 0,0,2X 0,0,36 0,1,1,39 0,1,1,QA 0,0,QP
    0,1,1,QU D,0,U5 Y,0,GI 0,0,2R 0,0,GL 0,0,6O 0,0,GS 0,0,2U 0,0,GV 0,0,GX 0,0,H1 0,2,1,H4
    0,0,5TN 0,0,IL 0,0,H9 0,0,5TX 0,0,IN 0,0,HD 0,0,HC 0,3,1,HE 0,0,HK 0,1,1,HU 0,0,BV 0,1,1,I1
    0,0,5R0 0,1,1,I3 0,0,3E 0,2,1,I8 0,0,QG 1S,44,2,5XD 5,0,2P,JI 0,0,601 2,0,67 1,2M,2,61T
    9,7,1,64G 8,5,1,64W A,7,1,65C 8,7,1,65S 8,5,1,668 B,6,2,66P 8,7,1,674 1,0,Q4 1,0,Q5 1,0,Q6
    1,0,Q7 1,0,R0 1,0,R1 1,0,R2 2,0,64G,QH 0,0,64H,QH 0,0,64I,QH 0,0,64J,QH 0,0,64K,QH
    0,0,64L,QH 0,0,64M,QH 0,0,64N,QH 0,0,64G,QH 0,0,64H,QH 0,0,64I,QH 0,0,64J,QH 0,0,64K,QH
    0,0,64L,QH 0,0,64M,QH 0,0,64N,QH 0,0,65C,QH 0,0,65D,QH 0,0,65E,QH 0,0,65F,QH 0,0,65G,QH
    0,0,65H,QH 0,0,65I,QH 0,0,65J,QH 0,0,65C,QH 0,0,65D,QH 0,0,65E,QH 0,0,65F,QH 0,0,65G,QH
    0,0,65H,QH 0,0,65I,QH 0,0,65J,QH 0,0,674,QH 0,0,675,QH 0,0,676,QH 0,0,677,QH 0,0,678,QH
    0,0,679,QH 0,0,67A,QH 0,0,67B,QH 0,0,674,QH 0,0,675,QH 0,0,676,QH 0,0,677,QH 0,0,678,QH
    0,0,679,QH 0,0,67A,QH 0,0,67B,QH 2,0,67K,QH 0,0,Q9,QH 0,0,Q4,QH 2,0,69I,QH 0,1,1,69C 0,0,67K
    0,0,Q4 0,0,Q9,QH 0,0,W,LV 0,0,QH 0,0,W,LV 0,0,W,N6 0,0,W,LK,N6 0,0,67O,QH 0,0,QF,QH
    0,0,Q6,QH 2,0,69Y,QH 0,0,67M 0,0,Q5 0,0,67O 0,0,Q6 0,0,QF,QH 0,0,W,LV,LC 0,0,W,LV,LD
    0,0,W,LV,N6 3,0,PC 4,1,1,6A8 0,0,67Q 0,0,Q7 1,0,W,LW,LC 0,0,W,LW,LD 0,0,W,LW,N6 3,0,Q8
    4,1,1,6AO 0,0,67U 0,0,R1 0,0,6AT 0,0,W,LK,LC 0,0,W,LK,LD 0,0,2O 2,0,67W,QH 0,0,QX,QH
    0,0,R2,QH 2,0,6BA,QH 0,0,67S 0,0,R0 0,0,67W 0,0,R2 0,0,QX,QH 0,0,W,LD 0,0,W,LW 1,0,W 0,0,W
    0,0,W 0,0,W 0,0,W 0,0,W 0,0,W 0,0,W 0,0,W 0,0,W 0,0,W 6,0,6C0 5,0,W,MR N,0,W 3,0,6CY,6CY
    0,0,6CY,6CY,6CY 1,0,6D1,6D1 0,0,6D1,6D1,6D1 4,0,X,X 1,0,W,LH 8,0,1R,1R 0,0,1R,X 0,0,X,1R
    D,0,6CY,6CY,6CY,6CY 7,0,W G,0,1C 0,0,2X 2,5,1,1G 0,0,17 0,0,6QA 0,0,1P 0,1,1,14 0,0,32
    0,9,1,1C 0,0,17 0,0,6QA 0,0,1P 0,1,1,14 1,0,2P 0,0,2T 0,0,33 0,0,3C 0,0,GP 0,0,2W 0,3,1,2Z
    0,0,34 0,1,1,37 B,0,36,37 2F,0,2P,1B,2R 0,0,2P,1B,37 0,0,2R 0,0,4W,2R 1,0,2R,1B,33
    0,0,2R,1B,39 0,0,GR 1,0,4W,2U 0,1,1,2V 0,0,2W 0,0,2W 0,0,2W 0,0,87 0,0,2X 0,0,2X 0,0,30
    0,2,2,30 0,0,32,33 2,2,1,34 0,0,36 0,0,36 2,0,37,31 0,0,38,2T,30 0,0,38,31 1,0,3E 1,0,QX
    1,0,3E 1,0,2Z 0,0,6D 0,1,1,2Q 1,0,2T 0,1,1,2T 0,0,6KU 0,0,31 0,0,33 0,3,1,15C 0,0,2X
    1,0,2U,2P,3C 0,0,QO 0,0,QB 0,0,QB 0,0,QO 0,0,6Q9 4,0,2S 0,1,1,2S 0,1,1,2X 6,0,1D,6DG,1J
    0,0,1D,6DG,1L 0,0,1D,6DG,1D,1C 0,0,1D,6DG,1F 0,0,1E,6DG,1F 0,0,1D,6DG,1H 0,0,1E,6DG,1H
    0,0,1F,6DG,1H 0,0,1G,6DG,1H 0,0,1D,6DG,1I 0,0,1H,6DG,1I 0,0,1D,6DG,1K 0,0,1F,6DG,1K
    0,0,1H,6DG,1K 0,0,1J,6DG,1K 0,0,1D,6DG 0,0,2X 0,0,2X,2X 0,0,2X,2X,2X 0,0,2X,3A 0,0,3A
    0,0,3A,2X 0,0,3A,2X,2X 0,0,3A,2X,2X,2X 0,0,2X,3C 0,0,3C 0,0,3C,2X 0,0,3C,2X,2X 0,0,30
    0,1,1,2R 0,0,31 0,0,2X 0,0,2X,2X 0,0,2X,2X,2X 0,0,2X,3A 0,0,3A 0,0,3A,2X 0,0,3A,2X,2X
    0,0,3A,2X,2X,2X 0,0,2X,3C 0,0,3C 0,0,3C,2X 0,0,3C,2X,2X 0,0,30 0,1,1,2R 0,0,31 3,0,6MC
    5,0,1C,6DG,1F 4I,0,6QZ,6QZ 0,0,6QZ,6QZ,6QZ 1,0,6R2,6R2 0,0,6R2,6R2,6R2 6W,1,1,9HK 8L,8,1,1D
    0,0,1D,1C 0,0,1D,1D 0,0,1D,1E 0,0,1D,1F 0,0,1D,1G 0,0,1D,1H 0,0,1D,1I 0,0,1D,1J 0,0,1D,1K
    0,0,1D,1L 0,0,1E,1C 0,0,14,1D,15 0,0,14,1E,15 0,0,14,1F,15 0,0,14,1G,15 0,0,14,1H,15
    0,0,14,1I,15 0,0,14,1J,15 0,0,14,1K,15 0,0,14,1L,15 0,0,14,1D,1C,15 0,0,14,1D,1D,15
    0,0,14,1D,1E,15 0,0,14,1D,1F,15 0,0,14,1D,1G,15 0,0,14,1D,1H,15 0,0,14,1D,1I,15
    0,0,14,1D,1J,15 0,0,14,1D,1K,15 0,0,14,1D,1L,15 0,0,14,1E,1C,15 K,0,14,2P,15 0,0,14,2Q,15
    0,0,14,2R,15 0,0,14,2S,15 0,0,14,2T,15 0,0,14,2U,15 0,0,14,2V,15 0,0,14,2W,15 0,0,14,2X,15
    0,0,14,2Y,15 0,0,14,2Z,15 0,0,14,30,15 0,0,14,31,15 0,0,14,32,15 0,0,14,33,15 0,0,14,34,15
    0,0,14,35,15 0,0,14,36,15 0,0,14,37,15 0,0,14,38,15 0,0,14,39,15 0,0,14,3A,15 0,0,14,3B,15
    0,0,14,3C,15 0,0,14,3D,15 0,0,14,3E,15 0,P,1,2P 0,P,1,2P 0,0,1C 10H,0,6QZ,6QZ,6QZ,6QZ
    2V,0,1M,1M,1P 0,0,1P,1P 0,0,1P,1P,1P 2T,0,8GT,MW 83,1B,1,8Q8 1C,0,8RL 1,0,H7 0,0,5TP 0,0,HP
    2,4,2,8RS 1,0,GH 0,0,HD 0,0,GG 0,0,GI 1,0,8S3 2,0,8S6 6,0,2Y 0,0,3A 0,1,1,FZ 0,2Q,2,8SH
    8,2,2,8VG 4,0,8VN 3G,0,8YP 8F,0,LAL 2B,0,VJ3 C,0,FEO 0,0,FFS 0,0,FG6 0,0,FGF 0,0,FH5 0,0,FID
    0,0,FIK 0,0,FJ4 0,0,FJU 0,0,G1R 0,0,G2T 0,0,G2Z 0,0,G3M 0,0,G46 0,0,G4R 0,0,G68 0,0,G6T
    0,0,G74 0,0,GBF 0,0,GE1 0,0,GET 0,0,GEY 0,0,GFS 0,0,GG1 0,0,GGS 0,0,GH5 0,0,GHU 0,0,GJA
    0,0,GJS 0,0,GKJ 0,0,H5J 0,0,H7J 0,0,HKB 0,0,HKY 0,0,HL6 0,0,HLH 0,0,HLZ 0,0,HO3 0,0,I1C
    0,0,I2O 0,0,I60 0,0,I6N 0,0,I76 0,0,I7S 0,0,I9A 0,0,I9D 0,0,IJF 0,0,IJP 0,0,IK1 0,0,IKE
    0,0,INM 0,0,INU 0,0,INZ 0,0,IR8 0,0,IRI 0,0,IRV 0,0,IS3 0,0,ITS 0,0,IU9 0,0,IUR 0,0,IWZ
    0,0,JD4 0,0,JEE 0,0,JEZ 0,0,JZJ 0,0,JZO 0,0,K1Z 0,0,K2F 0,0,K2S 0,0,K3D 0,0,K4G 0,0,K4L
    0,0,KC0 0,0,KCO 0,0,KDK 0,0,L5S 0,0,L7M 0,0,L89 0,0,L9V 0,0,LAJ 0,0,LAS 0,0,LAZ 0,0,LCF
    0,0,LCK 0,0,LDG 0,0,M7F 0,0,MJU 0,0,MK6 0,0,MKB 0,0,MKF 0,0,MKN 0,0,ML5 0,0,ML7 0,0,MNG
    0,0,MTG 0,0,MTL 0,0,N30 0,0,N3A 0,0,N4O 0,0,N4V 0,0,N54 0,0,N5C 0,0,N7V 0,0,N82 0,0,NEE
    0,0,NEL 0,0,NFY 0,0,NGF 0,0,NHQ 0,0,NOB 0,0,NOI 0,0,NOZ 0,0,NY2 0,0,O1K 0,0,O1Q 0,0,O6S
    0,0,O97 0,0,OAH 0,0,OKZ 0,0,OOO 0,0,P4M 0,0,P5D 0,0,P6Y 0,0,P8D 0,0,PA9 0,0,PAK 0,0,PAQ
    0,0,PBN 0,0,PDR 0,0,PE1 0,0,PNN 0,0,PNU 0,0,PO3 0,0,POC 0,0,POS 0,0,PP7 0,0,PPB 0,0,PRI
    0,0,PRM 0,0,PRS 0,0,QJ1 0,0,QJV 0,0,QWW 0,0,QX8 0,0,QXV 0,0,R5Q 0,0,R63 0,0,R82 0,0,R9C
    0,0,RP3 0,0,RPI 0,0,RPX 0,0,RQW 0,0,RRX 0,0,RXG 0,0,RXS 0,0,RZN 0,0,S6J 0,0,S7E 0,0,SD7
    0,0,SDS 0,0,SDX 0,0,SK1 0,0,SP5 0,0,SSM 0,0,SSS 0,0,SSX 0,0,TIV 0,0,TJ4 0,0,TNG 0,0,TRQ
    0,0,TRT 0,0,TT4 0,0,TW1 0,0,TWE 0,0,TWI 0,0,TWP 0,0,TZF 0,0,U0D 0,0,U0J 0,0,U0X 0,0,U5K
    0,0,U6Z 0,0,U73 0,0,UC6 0,0,UC9 0,0,UCS 0,0,UJS 0,0,UL4 0,0,ULB 0,0,UN9 0,0,UNJ 0,0,UNM
    0,0,UNW 0,0,UOQ 0,0,UZP 0,0,VAT 0,0,VB3 0,0,VC5 0,0,VCR 0,0,VCZ 0,0,VD9 0,0,VDD 0,0,VEH
    0,0,VEL 0,0,VF2 0,0,VF7 0,0,VFK 0,0,VGB 0,0,VGQ 0,0,VGY 0,0,VIL 0,0,VJ0 0,0,VJ4 16,0,W
    1,0,1A 1F,0,9HU 1,0,GG1 0,1,1,GG4 2O,0,W,9LL 0,0,W,9LM 2,0,9L4,9L6 2N,0,9MB,9MW 1D,1,1,3CW
    0,0,3HM 0,0,3CY 0,1,1,3HO 0,2,1,3CZ 0,5,1,3HS 0,0,3DM 0,2,1,3D2 0,0,3DT 0,9,1,3D5 0,K,1,3FL
    1,1,1,3DG 0,1,1,3IF 0,0,3IK 0,0,3IM 0,0,3IR 0,0,3IV 0,0,3IX 0,0,3DO 0,0,3J1 0,0,3J3
    0,1,1,3DP 0,0,3DS 0,1,1,3DU 0,0,3DZ 0,0,3E1 0,4,1,3E3 0,0,3EA 0,0,3EE 0,0,3EO 0,0,3EV
    0,0,3F0 0,1,1,3JL 0,2,1,3FB 0,1,1,3GK 0,0,3GO 0,1,1,3GX 0,0,3H0 0,0,3HA 0,0,3HD 3,0,FEO
    0,0,FIK 0,0,FEX 0,0,H5N 0,0,FEY 0,0,FFX 0,0,FEZ 0,0,N5E 0,0,FH5 0,0,FFD 0,0,FEP 0,0,HM1
    0,0,H80 0,0,FJU 2O,0,14,3CW,15 0,0,14,3CY,15 0,0,14,3CZ,15 0,0,14,3D1,15 0,0,14,3D2,15
    0,0,14,3D3,15 0,0,14,3D5,15 0,0,14,3D7,15 0,0,14,3D8,15 0,0,14,3DA,15 0,0,14,3DB,15
    0,0,14,3DC,15 0,0,14,3DD,15 0,0,14,3DE,15 0,0,14,XZ4,15 0,0,14,YVS,15 0,0,14,ZC4,15
    0,0,14,108S,15 0,0,14,10P4,15 0,0,14,115G,15 0,0,14,1224,15 0,0,14,12YS,15 0,0,14,13F4,15
    0,0,14,14BS,15 0,0,14,14S4,15 0,0,14,158G,15 0,0,14,15OS,15 0,0,14,1654,15 0,0,14,13P8,15
    0,0,14,1350,13IC,15 0,0,14,1350,16F8,15 1,0,14,FEO,15 0,0,14,FIK,15 0,0,14,FEX,15
    0,0,14,H5N,15 0,0,14,FIS,15 0,0,14,G31,15 0,0,14,FER,15 0,0,14,G2Z,15 0,0,14,FH9,15
    0,0,14,GG1,15 0,0,14,KCO,15 0,0,14,M7F,15 0,0,14,LDG,15 0,0,14,KDK,15 0,0,14,SSX,15
    0,0,14,H7J,15 0,0,14,K4L,15 0,0,14,KKQ,15 0,0,14,KCP,15 0,0,14,NY6,15 0,0,14,GLP,15
    0,0,14,MM1,15 0,0,14,RS1,15 0,0,14,NZ1,15 0,0,14,GC4,15 0,0,14,FKZ,15 0,0,14,GOS,15
    0,0,14,I1Y,15 0,0,14,NHF,15 0,0,14,FLT,15 0,0,14,RT3,15 0,0,14,GGK,15 0,0,14,NZH,15
    0,0,14,FM9,15 0,0,14,PNU,15 0,0,14,PO3,15 0,0,GUN 0,0,INW 0,0,K1Z 0,0,OEN 8,0,34,38,2T
    0,0,1E,1D 0,0,1E,1E 0,0,1E,1F 0,0,1E,1G 0,0,1E,1H 0,0,1E,1I 0,0,1E,1J 0,0,1E,1K 0,0,1E,1L
    0,0,1F,1C 0,0,1F,1D 0,0,1F,1E 0,0,1F,1F 0,0,1F,1G 0,0,1F,1H 0,0,3CW 0,1,1,3CY 0,2,1,3D1
    0,0,3D5 0,1,1,3D7 0,4,1,3DA 0,0,XZ4 0,0,YVS 0,0,ZC4 0,0,108S 0,0,10P4 0,0,115G 0,0,1224
    0,0,12YS 0,0,13F4 0,0,14BS 0,0,14S4 0,0,158G 0,0,15OS 0,0,1654 0,0,14C8,Y5C 0,0,13P8,13DK
    0,0,138W 1,0,FEO 0,0,FIK 0,0,FEX 0,0,H5N 0,0,FIS 0,0,G31 0,0,FER 0,0,G2Z 0,0,FH9 0,0,GG1
    0,0,KCO 0,0,M7F 0,0,LDG 0,0,KDK 0,0,SSX 0,0,H7J 0,0,K4L 0,0,KKQ 0,0,KCP 0,0,NY6 0,0,GLP
    0,0,MM1 0,0,RS1 0,0,NZ1 0,0,GC4 0,0,O2G 0,0,N5J 0,0,HO3 0,0,SIX 0,0,G16 0,0,GHC 0,0,LIG
    0,0,U11 0,0,FM9 0,0,G49 0,0,L7N 0,0,FEY 0,0,FFX 0,0,FEZ 0,0,IJQ 0,0,GKZ 0,0,GFV 0,0,I3B
    0,0,I1Y 0,0,NHF 0,0,FLT 0,0,RT3 0,0,GGK 0,0,HLO 0,0,1F,1I 0,0,1F,1J 0,0,1F,1K 0,0,1F,1L
    0,0,1G,1C 0,0,1G,1D 0,0,1G,1E 0,0,1G,1F 0,0,1G,1G 0,0,1G,1H 0,0,1G,1I 0,0,1G,1J 0,0,1G,1K
    0,0,1G,1L 0,0,1H,1C 0,0,1D,KCO 0,0,1E,KCO 0,0,1F,KCO 0,0,1G,KCO 0,0,1H,KCO 0,0,1I,KCO
    0,0,1J,KCO 0,0,1K,KCO 0,0,1L,KCO 0,0,1D,1C,KCO 0,0,1D,1D,KCO 0,0,1D,1E,KCO 0,0,2W,2V
    0,0,2T,36,2V 0,0,2T,3A 0,0,30,38,2S 0,0,9LU 0,0,9LW 0,0,9LY 0,0,9M0 0,1,1,9M2 0,0,9M5
    0,0,9M7 0,0,9M9 0,0,9MB 0,0,9MD 0,0,9MF 0,0,9MH 0,0,9MJ 0,0,9ML 0,0,9MN 0,0,9MP 0,0,9MS
    0,0,9MU 0,0,9MW 0,5,1,9MY 0,0,9N6 0,0,9N9 0,0,9NC 0,0,9NF 0,4,1,9NI 0,0,9NO 0,0,9NQ
    0,5,1,9NS 0,3,1,9NZ 0,0,FL0,GP8 0,0,9LU,9N5,9OC,9MW 0,0,9LU,9NV,9N9,9LT 0,0,9LU,9O3,9NE,9LU
    0,0,9LU,9OC,9NV 0,0,9LW,9MZ,9O3,9M8 0,0,9LW,9O3,9MP 0,0,9LY,9M1,9O3 0,0,9M0,9MH,9M7,9OC,9MX
    0,0,9M0,9OC,9M3,9OC 0,0,9M2,9O3,9MH 0,0,9M2,9OC,9NK 0,0,9M3,9LW,9NU 0,0,9M3,9NT,9MR,9MW
    0,0,9M3,9NX,9NU,9OC 0,0,9M4,9NX,9O3 0,0,9M4,9O3,9NI 0,0,9M6,9M4 0,0,9M6,9MZ,9OC
    0,0,9M5,9NP,9NU,9OC 0,0,9M6,9NV,9MO,9OC 0,0,9M5,9NX 0,0,9M5,9NX,9M8,9NT,9NK
    0,0,9M5,9NX,9NL,9OC,9MW,9NV 0,0,9M5,9NX,9NZ,9MR,9MW 0,0,9M8,9NT,9NK 0,0,9M8,9NT,9NK,9MW,9O3
    0,0,9M7,9NV,9MK,9LW,9NX 0,0,9M7,9NX,9OC,9N1 0,0,9M9,9OC,9MH 0,0,9MB,9NV,9MY 0,0,9MB,9OC,9NH
    0,0,9MD,9LW,9M7,9NV 0,0,9MD,9O3,9MP,9OC,9NK 0,0,9MF,9NU,9O3,9M8 0,0,9MJ,9O3,9MP
    0,0,9MJ,9O3,9MW 0,0,9MO,9OC,9MH 0,0,9MV,9MF 0,0,9MX,9NV 0,0,9MW,9O3 0,0,9MY,9N2
    0,0,9N2,9MR,9MW 0,0,9N3,9LW,9MS 0,0,9N5,9OC,9MJ,9O3,9MW 0,0,9N5,9OC,9MS 0,0,9N4,9OC,9NW,9NV
    0,0,9N8,9LU,9MH,9MW,9NV 0,0,9N8,9M7,9NV 0,0,9N8,9MB 0,0,9N7,9NV 0,0,9N9,9LT,9NT,9MR,9MX
    0,0,9N9,9LV,9OC,9MW 0,0,9NA,9MR,9MF,9LZ,9NV 0,0,9N9,9NT,9O3 0,0,9NC,9M7,9MN,9OC,9NV
    0,0,9NE,9ML 0,0,9NE,9MZ,9N6 0,0,9NC,9NV,9MS 0,0,9NE,9O3,9MH 0,0,9NE,9OC,9MG 0,0,9ND,9OC,9MN
    0,0,9NH,9LW,9O3,9MW 0,0,9NG,9NV,9MW 0,0,9NF,9O3 0,0,9NH,9O3,9MX 0,0,9NF,9OC,9NV
    0,0,9NF,9OC,9O3 0,0,9NI,9LW,9M7,9NX 0,0,9NI,9LW,9NV 0,0,9NI,9MR,9N3 0,0,9NI,9NV,9M7
    0,0,9NI,9O3,9MF,9NR,9O3 0,0,9NJ,9M7,9NX,9O3 0,0,9NJ,9NU 0,0,9NJ,9NU,9N4,9OC,9NV 0,0,9NL,9M4
    0,0,9NL,9M4,9MW,9O3 0,0,9NL,9OC,9MW,9NV 0,0,9NO,9OC,9MX 0,0,9NO,9OC,9NV 0,0,9NQ,9LU,9O3
    0,0,9NU,9MR,9MW,9NV 0,0,9NU,9NT 0,0,9NV,9N8,9OC 0,0,9NV,9OC,9NA,9NV 0,0,9NW,9NK
    0,0,9NW,9O3,9MW,9MA,9O3 0,0,9NZ,9MR,9MW 0,0,1C,M9L 0,0,1D,M9L 0,0,1E,M9L 0,0,1F,M9L
    0,0,1G,M9L 0,0,1H,M9L 0,0,1I,M9L 0,0,1J,M9L 0,0,1K,M9L 0,0,1L,M9L 0,0,1D,1C,M9L
    0,0,1D,1D,M9L 0,0,1D,1E,M9L 0,0,1D,1F,M9L 0,0,1D,1G,M9L 0,0,1D,1H,M9L 0,0,1D,1I,M9L
    0,0,1D,1J,M9L 0,0,1D,1K,M9L 0,0,1D,1L,M9L 0,0,1E,1C,M9L 0,0,1E,1D,M9L 0,0,1E,1E,M9L
    0,0,1E,1F,M9L 0,0,1E,1G,M9L 0,0,2W,34,2P 0,0,2S,2P 0,0,2P,39 0,0,2Q,2P,36 0,0,33,3A
    0,0,34,2R 0,0,2S,31 0,0,2S,31,1E 0,0,2S,31,1F 0,0,2X,39 0,0,INN,JDC 0,0,K6L,GP8 0,0,HLZ,L7N
    0,0,K5Q,LH7 0,0,KKQ,IRZ,FMI,NY6 0,0,34,2P 0,0,32,2P 0,0,QK,2P 0,0,31,2P 0,0,2Z,2P 0,0,2Z,2Q
    0,0,31,2Q 0,0,2V,2Q 0,0,2R,2P,30 0,0,2Z,2R,2P,30 0,0,34,2U 0,0,32,2U 0,0,QK,2U 0,0,QK,2V
    0,0,31,2V 0,0,2Z,2V 0,0,2W,3E 0,0,2Z,2W,3E 0,0,31,2W,3E 0,0,2V,2W,3E 0,0,38,2W,3E 0,0,QK,30
    0,0,31,30 0,0,2S,30 0,0,2Z,30 0,0,2U,31 0,0,32,31 0,0,QK,31 0,0,31,31 0,0,2R,31 0,0,2Z,31
    0,0,31,31,1E 0,0,2R,31,1E 0,0,31,1E 0,0,2Z,31,1E 0,0,31,31,1F 0,0,2R,31,1F 0,0,31,1F
    0,0,2Z,31,1F 0,0,31,6QD,37 0,0,31,6QD,37,1E 0,0,34,2P 0,0,2Z,34,2P 0,0,31,34,2P 0,0,2V,34,2P
    0,0,36,2P,2S 0,0,36,2P,2S,6QD,37 0,0,36,2P,2S,6QD,37,1E 0,0,34,37 0,0,32,37 0,0,QK,37
    0,0,31,37 0,0,34,3A 0,0,32,3A 0,0,QK,3A 0,0,31,3A 0,0,2Z,3A 0,0,31,3A 0,0,34,3B 0,0,32,3B
    0,0,QK,3B 0,0,31,3B 0,0,2Z,3B 0,0,31,3B 0,0,2Z,QX 0,0,31,QX 1,0,2Q,35 0,0,2R,2R 0,0,2R,2S
    0,0,2R,6QD,2Z,2V 1,0,2S,2Q 0,0,2V,3D 0,0,2W,2P 0,0,2W,34 0,0,2X,32 0,0,2Z,2Z 0,0,2Z,31
    0,0,2Z,38 0,0,30,31 0,0,30,32 0,0,30,33,2V 0,0,30,3C 0,0,31,2Q 0,0,31,2X,30 0,0,31,33,30
    0,0,34,2W 1,0,34,34,31 0,0,34,36 0,0,37,36 0,0,37,3A 0,0,3B,2Q 0,0,3A,6QD,31 0,0,2P,6QD,31
    0,0,1D,K4L 0,0,1E,K4L 0,0,1F,K4L 0,0,1G,K4L 0,0,1H,K4L 0,0,1I,K4L 0,0,1J,K4L 0,0,1K,K4L
    0,0,1L,K4L 0,0,1D,1C,K4L 0,0,1D,1D,K4L 0,0,1D,1E,K4L 0,0,1D,1F,K4L 0,0,1D,1G,K4L
    0,0,1D,1H,K4L 0,0,1D,1I,K4L 0,0,1D,1J,K4L 0,0,1D,1K,K4L 0,0,1D,1L,K4L 0,0,1E,1C,K4L
    0,0,1E,1D,K4L 0,0,1E,1E,K4L 0,0,1E,1F,K4L 0,0,1E,1G,K4L 0,0,1E,1H,K4L 0,0,1E,1I,K4L
    0,0,1E,1J,K4L 0,0,1E,1K,K4L 0,0,1E,1L,K4L 0,0,1F,1C,K4L 0,0,1F,1D,K4L 0,0,2V,2P,30
    MKG,18,2,WU9 J,Q,2,WW1 1,0,UI 0,0,UK 3O,C,2,X0J 3,1O,2,X0Z 1,0,X2N 8,2,2,X2Y 1,0,5TL
    0,8,2,X33 4,0,X3G 1,0,H1 2,2,2,X3L 3,I,2,X3R 1,0,H2 0,0,GS 0,0,GX 0,0,H8 0,0,H6 1,0,IM
    0,0,HZ 0,0,IL 0,0,XUB 0,E,2,X4L 1,0,X3O 0,0,HU 0,0,5U6 0,2,2,X54 1,0,H0 0,E,2,X59 1,0,BF
    K,0,37 0,0,2R 0,0,2U 0,0,35 0,0,X6E 2,0,87 0,0,9F O2,0,X0N 0,0,XTJ 0,0,H7 0,0,XUA 9,0,I5
    6,27,1,3VK F9C,0,RPK 0,0,KC4 0,0,S7E 0,0,RT4 0,0,LW1 0,0,FG2 0,0,GKL 0,0,VJ0 0,0,VJ0 0,0,HN5
    0,0,SSX 0,0,GW7 0,0,HMW 0,0,JCM 0,0,NE1 0,0,P6T 0,0,QIN 0,0,QT6 0,0,R20 0,0,SJZ 0,0,KXU
    0,0,LJV 0,0,MAH 0,0,MVY 0,0,Q4D 0,0,SQ2 0,0,UEP 0,0,FIA 0,0,GHH 0,0,L50 0,0,MJF 0,0,QI5
    0,0,V8E 0,0,IFK 0,0,M3V 0,0,QFH 0,0,R50 0,0,JIH 0,0,PNC 0,0,QVZ 0,0,IQ2 0,0,KD3 0,0,LM2
    0,0,MPO 0,0,SLQ 0,0,FPI 0,0,G53 0,0,GDA 0,0,JWK 0,0,L3N 0,0,MJ4 0,0,NHJ 0,0,PA9 0,0,QH2
    0,0,QJG 0,0,S1B 0,0,TV6 0,0,UPB 0,0,V7E 0,0,NT8 0,0,NZZ 0,0,OTC 0,0,Q15 0,0,T1G 0,0,VB3
    0,0,RFA 0,0,HJZ 0,0,IRO 0,0,OKG 0,0,PDQ 0,0,MLE 0,0,NUY 0,0,RSY 0,0,TTJ 0,0,HJS 0,0,I8Y
    0,0,KYB 0,0,LP6 0,0,LXR 0,0,OQ7 0,0,OXJ 0,0,TOR 0,0,GCY 0,0,PE3 0,0,G64 0,0,G5O 0,0,O4C
    0,0,OU6 0,0,Q29 0,0,TPX 0,0,RK0 0,0,JIN 0,0,KXU 0,0,RGE 0,0,FG9 0,0,I5J 0,0,IZ6 0,0,MTJ
    0,0,N74 0,0,GEV 0,0,NWB 0,0,FR3 0,0,IW9 0,0,FF1 0,0,LHO 0,0,K1K 0,0,OPU 0,0,GJN 0,0,HGE
    0,0,NI9 0,0,Q4P 0,0,RE2 0,0,LA2 0,0,SDS 0,0,LFS 0,0,JJY 0,0,PUT 0,0,JOG 0,0,N6T 0,0,FJI
    0,0,G2X 0,0,G5L 0,0,KN5 0,0,OO7 0,0,PRJ 0,0,RF6 0,0,SSV 0,0,GDX 0,0,GN6 0,0,HO3 0,0,IR0
    0,0,K3P 0,0,M4E 0,0,NXM 0,0,TKD 0,0,UI2 0,0,VBR 0,0,VDA 0,0,GBF 0,0,KAU 0,0,L87 0,0,SBM
    0,0,INO 0,0,J9S 0,0,JCW 0,0,JVE 0,0,LYB 0,0,MDL 0,0,N0P 0,0,O22 0,0,OVO 0,0,PDB 0,0,S9Y
    0,0,Q9A 0,0,SGZ 0,0,T3E 0,0,G7R 0,0,GBN 0,0,GQL 0,0,MA0 0,0,R0I 0,0,RE2 0,0,IQ1 0,0,IYD
    0,0,JNF 0,0,L9Q 0,0,OJI 0,0,MT1 0,0,FL0 0,0,H6H 0,0,I5J 0,0,III 0,0,IZG 0,0,MUQ 0,0,MZT
    0,0,P7E 0,0,PC6 0,0,SVO 0,0,TTI 0,0,TVS 0,0,U1K 0,0,FPN 0,0,O1A 0,0,SS4 0,0,TRS 0,0,J4X
    0,0,FIE 0,0,FYY 0,0,I5Q 0,0,I7Z 0,0,K2H 0,0,KXU 0,0,MHA 0,0,NCY 0,0,Q9O 0,0,SJG 0,0,VIL
    0,0,K94 0,0,TNY 0,0,GAX 0,0,KFV 0,0,KJ7 0,0,LKX 0,0,LUK 0,0,MX5 0,0,N6H 0,0,NSB 0,0,OPC
    0,0,U3I 0,0,G31 0,0,JE6 0,0,TQ0 0,0,FU3 0,0,IE1 0,0,LPM 0,0,SA2 0,0,IVF 0,0,J7O 0,0,KK7
    0,0,MTJ 0,0,TQE 0,0,G89 0,0,GLR 0,0,I91 0,0,K5V 0,0,KEM 0,0,KO8 0,0,LID 0,0,MX2 0,0,NAA
    0,0,P6H 0,0,R0V 0,0,R1D 0,0,SSS 0,0,TSY 0,0,GFZ 0,0,LVE 0,0,GM5 0,0,MHC 0,0,N14 0,0,QGQ
    0,0,TR7 0,0,UVR 0,0,VBZ 0,0,KGN 0,0,LOR 0,0,PNS 0,0,O97 0,0,OBK 0,0,OLU 0,0,MO0 0,0,M8P
    0,0,RIW 0,0,FK0 0,0,PX2 0,0,G8Q 0,0,G7B 0,0,IP2 0,0,JIR 0,0,ONQ 0,0,I2T 0,0,LJY 0,0,KAC
    0,0,SAJ 0,0,QX8 0,0,TOT 0,0,R63 0,0,IQB 0,0,G1S 0,0,GXS 2,0,HGA 1,0,K8K 2,0,G66 0,0,MQY
    0,0,NGQ 0,0,NY4 0,0,NZ2 0,0,NZ9 0,0,O0F 0,0,TW6 0,0,ON2 0,0,P8D 1,0,QHE 1,0,RG8 2,0,SHK
    0,0,SN1 3,0,U7J 0,0,U7W 0,0,U94 0,0,V5G 0,0,SM6 0,0,TRR 0,0,FQM 0,0,FZB 0,0,G25 0,0,GCP
    0,0,GDG 0,0,GGH 0,0,GWT 0,0,GZQ 0,0,H2G 0,0,HFK 0,0,HIG 0,0,I90 0,0,I9A 0,0,J2S 0,0,J8O
    0,0,J9Q 0,0,JCI 0,0,K0F 0,0,K4I 0,0,K9D 0,0,KN9 0,0,LMF 0,0,LQY 0,0,LYA 0,0,MEM 0,0,MJV
    0,0,MXU 0,0,NTD 0,0,NY6 0,0,NYH 0,0,NYG 0,0,NYO 0,0,NYU 0,0,NZ1 0,1,1,O0D 0,0,O5C 0,0,O75
    0,0,OG0 0,0,OVO 0,0,OW9 0,0,OXT 0,0,P6A 0,0,PAD 0,0,PNX 0,0,PRT 0,0,PRT 0,0,Q53 0,0,R2O
    0,0,R6E 0,0,RGH 0,0,RI1 0,0,RTF 0,0,RUW 0,0,SDY 0,0,SHK 0,0,TSZ 0,0,U0V 0,0,U2J 0,0,J1X
    0,0,36CU 0,0,PP4 2,0,FFQ 0,0,G51 0,0,G2W 0,0,FPC 0,0,G1X 0,0,G3K 0,0,GCN 0,0,GE2 0,0,GWT
    0,0,GUT 0,0,GWP 0,0,GYQ 0,0,HGA 0,0,HIR 0,0,HMS 0,0,HN8 0,0,HUQ 0,0,I08 0,0,IQA 0,0,IQH
    0,0,IUH 0,0,IWD 0,0,J4O 0,0,J7Y 0,0,J60 0,0,J9Q 0,0,J8G 0,0,JCI 0,0,JEC 0,0,JPG 0,0,JRW
    0,0,JTE 0,0,K0M 0,0,K8K 0,0,KD3 0,0,KD7 0,0,KEU 0,0,L89 0,0,LA2 0,0,LKX 0,0,LWB 0,0,LVV
    0,0,LYA 0,0,M5A 0,0,MEM 0,0,NMV 0,0,MK5 0,0,MNJ 0,0,MQY 0,0,N01 0,0,N46 0,0,N5N 0,0,NBX
    0,0,NBZ 0,0,NGQ 0,0,NH7 0,0,NHW 0,0,NKA 0,0,NK0 0,0,NV0 0,0,O8H 0,0,OG0 0,0,OL7 0,0,ORF
    0,0,OVO 0,0,P4U 0,0,PAD 0,0,PXU 0,0,Q27 0,0,QRD 0,0,R41 0,0,R5Y 0,0,R6E 0,0,REN 0,0,RG8
    0,0,REZ 0,0,RGH 0,0,RGE 0,0,RFX 0,0,RI1 0,0,RKA 0,0,RUW 0,0,SAG 0,0,SJ6 0,0,SRD 0,0,SXI
    0,0,TQ4 0,0,TSZ 0,0,TW6 0,0,TZV 0,0,U0V 0,0,U17 0,0,U2J 0,0,UMQ 0,0,VJ0 0,0,313E 0,0,3138
    0,0,33DH 0,0,BRX 0,0,CNS 0,0,COP 0,0,39E1 0,0,3BGW 0,0,3I6R 0,0,VGJ 0,0,VIM 12,0,2U,2U
    0,0,2U,2X 0,0,2U,30 0,0,2U,2U,2X 0,0,2U,2U,30 0,0,37,38 0,0,37,38 C,0,12S,12U 0,0,12S,12D
    0,0,12S,12J 0,0,132,12U 0,0,12S,12L 5,0,15L,14K 1,0,16A,14N 0,0,15U 0,0,15C 0,1,1,15F
    0,2,1,15N 0,0,160 0,0,162 0,0,17 0,0,161,14X 0,0,161,14Y 0,0,161,14S,14X 0,0,161,14S,14Y
    0,0,15C,14N 0,0,15C,14O 0,0,15C,14S 0,0,15D,14S 0,0,15E,14S 0,0,15F,14S 0,0,15G,14S
    0,0,15H,14S 0,0,15I,14S 1,0,15K,14S 0,0,15L,14S 0,0,15M,14S 0,0,15N,14S 0,0,15O,14S
    1,0,15Q,14S 1,0,15S,14S 0,0,15T,14S 1,0,15V,14S 0,0,15W,14S 1,0,15Y,14S 0,0,15Z,14S
    0,0,160,14S 0,0,161,14S 0,0,162,14S 0,0,15H,14P 0,0,15D,14V 0,0,15N,14V 0,0,15W,14V
    0,0,15C,15O 0,0,19T 0,0,19T 0,0,1A3 0,0,1A3 0,0,1A3 0,0,1A3 0,0,1A6 0,0,1A6 0,0,1A6 0,0,1A6
    0,0,1A8 0,0,1A8 0,0,1A8 0,0,1A8 0,0,1A2 0,0,1A2 0,0,1A2 0,0,1A2 0,0,1A7 0,0,1A7 0,0,1A7
    0,0,1A7 0,0,1A1 0,0,1A1 0,0,1A1 0,0,1A1 0,0,1B8 0,0,1B8 0,0,1B8 0,0,1B8 0,0,1BA 0,0,1BA
    0,0,1BA 0,0,1BA 0,0,1AC 0,0,1AC 0,0,1AC 0,0,1AC 0,0,1AB 0,0,1AB 0,0,1AB 0,0,1AB 0,0,1AE
    0,0,1AE 0,0,1AE 0,1,1,1AE 0,0,1AF 0,0,1AF 0,0,1AF 0,0,1AL 0,0,1AL 0,0,1AK 0,0,1AK 0,0,1AM
    0,0,1AM 0,0,1AG 0,0,1AG 0,0,1AW 0,0,1AW 0,0,1AP 0,0,1AP 0,0,1BD 0,0,1BD 0,0,1BD 0,0,1BD
    0,0,1BJ 0,0,1BJ 0,0,1BJ 0,0,1BJ 0,0,1BN 0,0,1BN 0,0,1BN 0,0,1BN 0,0,1BL 0,0,1BL 0,0,1BL
    0,0,1BL 0,0,1BU 0,1,1,1BU 0,0,1BV 0,0,1BV 0,0,1BV 0,0,1C0 0,1,1,1C0 0,0,1C1 0,0,1C1 0,0,1C1
    0,0,1BY 0,0,1BY 0,0,1BY 0,0,1BY 0,0,1CI 0,1,1,1CI 0,0,1CJ X,0,1BH 0,0,1BH 0,0,1BH 0,0,1BH
    0,0,1C7 0,0,1C7 0,0,1C6 0,0,1C6 0,0,1C8 0,0,1C8 0,0,1C7,19W 0,0,1CB 0,0,1CB 0,0,1C5 0,0,1C5
    0,0,1C9 0,0,1C9 0,0,1CG 0,0,1CG 0,0,1CG 0,0,1CG 0,0,18P 0,0,18P 0,0,17Q,17R 0,0,17Q,17R
    0,0,17Q,1CL 0,0,17Q,1CL 0,0,17Q,18O 0,0,17Q,18O 0,0,17Q,1C7 0,0,17Q,1C7 0,0,17Q,1C6
    0,0,17Q,1C6 0,0,17Q,1C8 0,0,17Q,1C8 0,0,17Q,1CG 0,0,17Q,1CG 0,0,17Q,1CG 0,0,17Q,18P
    0,0,17Q,18P 0,0,17Q,18P 0,0,1CC 0,0,1CC 0,0,1CC 0,0,1CC 0,0,17Q,17W 0,0,17Q,17X 0,0,17Q,18L
    0,0,17Q,18P 0,0,17Q,18Q 0,0,17S,17W 0,0,17S,17X 0,0,17S,17Y 0,0,17S,18L 0,0,17S,18P
    0,0,17S,18Q 0,0,17U,17W 0,0,17U,17X 0,0,17U,17Y 0,0,17U,18L 0,0,17U,18P 0,0,17U,18Q
    0,0,17V,17W 0,0,17V,18L 0,0,17V,18P 0,0,17V,18Q 0,0,17W,17X 0,0,17W,18L 0,0,17X,17W
    0,0,17X,18L 0,0,17Y,17W 0,0,17Y,17X 0,0,17Y,18L 0,0,183,17W 0,0,183,17X 0,0,183,17Y
    0,0,183,18L 0,0,185,17X 0,0,185,18L 0,0,186,17W 0,0,186,17X 0,0,186,17Y 0,0,186,18L
    0,0,187,17X 0,0,187,18L 0,0,188,18L 0,0,189,17W 0,0,189,18L 0,0,18A,17W 0,0,18A,18L
    0,0,18H,17W 0,0,18H,17X 0,0,18H,17Y 0,0,18H,18L 0,0,18H,18P 0,0,18H,18Q 0,0,18I,17X
    0,0,18I,18L 0,0,18I,18P 0,0,18I,18Q 0,0,18J,17R 0,0,18J,17W 0,0,18J,17X 0,0,18J,17Y
    0,0,18J,18K 0,0,18J,18L 0,0,18J,18P 0,0,18J,18Q 0,0,18K,17W 0,0,18K,17X 0,0,18K,17Y
    0,0,18K,18L 0,0,18K,18P 0,0,18K,18Q 0,0,18L,17W 0,0,18L,17X 0,0,18L,17Y 0,0,18L,18L
    0,0,18L,18P 0,0,18L,18Q 0,0,18M,17W 0,0,18M,17X 0,0,18M,17Y 0,0,18M,18L 0,0,18M,18P
    0,0,18M,18Q 0,0,18N,17W 0,0,18N,18L 0,0,18N,18P 0,0,18N,18Q 0,0,18Q,17W 0,0,18Q,17X
    0,0,18Q,17Y 0,0,18Q,18L 0,0,18Q,18P 0,0,18Q,18Q 0,0,180,19S 0,0,181,19S 0,0,18P,19S
    0,0,W,18S,18X 0,0,W,18T,18X 0,0,W,18U,18X 0,0,W,18V,18X 0,0,W,18W,18X 0,0,W,18X,19S
    0,0,17Q,181 0,0,17Q,182 0,0,17Q,18L 0,0,17Q,18M 0,0,17Q,18P 0,0,17Q,18Q 0,0,17S,181
    0,0,17S,182 0,0,17S,18L 0,0,17S,18M 0,0,17S,18P 0,0,17S,18Q 0,0,17U,181 0,0,17U,182
    0,0,17U,18L 0,0,17U,18M 0,0,17U,18P 0,0,17U,18Q 0,0,17V,181 0,0,17V,182 0,0,17V,18L
    0,0,17V,18M 0,0,17V,18P 0,0,17V,18Q 0,0,18H,18P 0,0,18H,18Q 0,0,18I,18P 0,0,18I,18Q
    0,0,18J,17R 0,0,18J,18K 0,0,18J,18L 0,0,18J,18P 0,0,18J,18Q 0,0,18K,18L 0,0,18K,18P
    0,0,18K,18Q 0,0,18L,17R 0,0,18L,18L 0,0,18M,181 0,0,18M,182 0,0,18M,18L 0,0,18M,18M
    0,0,18M,18P 0,0,18M,18Q 0,0,18P,19S 0,0,18Q,181 0,0,18Q,182 0,0,18Q,18L 0,0,18Q,18M
    0,0,18Q,18P 0,0,18Q,18Q 0,0,17Q,17W 0,0,17Q,17X 0,0,17Q,17Y 0,0,17Q,18L 0,0,17Q,18N
    0,0,17S,17W 0,0,17S,17X 0,0,17S,17Y 0,0,17S,18L 0,0,17S,18N 0,0,17U,17W 0,0,17U,17X
    0,0,17U,17Y 0,0,17U,18L 0,0,17U,18N 0,0,17V,18L 0,0,17W,17X 0,0,17W,18L 0,0,17X,17W
    0,0,17X,18L 0,0,17Y,17W 0,0,17Y,18L 0,0,183,17W 0,0,183,17X 0,0,183,17Y 0,0,183,18L
    0,0,185,17X 0,0,185,17Y 0,0,185,18L 0,0,186,17W 0,0,186,17X 0,0,186,17Y 0,0,186,18L
    0,0,187,17X 0,0,188,18L 0,0,189,17W 0,0,189,18L 0,0,18A,17W 0,0,18A,18L 0,0,18H,17W
    0,0,18H,17X 0,0,18H,17Y 0,0,18H,18L 0,0,18I,17X 0,0,18I,18L 0,0,18J,17W 0,0,18J,17X
    0,0,18J,17Y 0,0,18J,18K 0,0,18J,18L 0,0,18K,17W 0,0,18K,17X 0,0,18K,17Y 0,0,18K,18L
    0,0,18K,18N 0,0,18L,17W 0,0,18L,17X 0,0,18L,17Y 0,0,18L,18L 0,0,18M,17W 0,0,18M,17X
    0,0,18M,17Y 0,0,18M,18L 0,0,18M,18N 0,0,18N,17W 0,0,18N,18L 0,0,18N,19S 0,0,18Q,17W
    0,0,18Q,17X 0,0,18Q,17Y 0,0,18Q,18L 0,0,18Q,18N 0,0,17Q,18L 0,0,17Q,18N 0,0,17S,18L
    0,0,17S,18N 0,0,17U,18L 0,0,17U,18N 0,0,17V,18L 0,0,17V,18N 0,0,183,18L 0,0,183,18N
    0,0,184,18L 0,0,184,18N 0,0,18J,18K 0,0,18J,18L 0,0,18K,18L 0,0,18M,18L 0,0,18M,18N
    0,0,18Q,18L 0,0,18Q,18N 0,0,18G,18U,18X 0,0,18G,18V,18X 0,0,18G,18W,18X 0,0,187,18P
    0,0,187,18Q 0,0,189,18P 0,0,189,18Q 0,0,18A,18P 0,0,18A,18Q 0,0,183,18P 0,0,183,18Q
    0,0,184,18P 0,0,184,18Q 0,0,17X,18P 0,0,17X,18Q 0,0,17W,18P 0,0,17W,18Q 0,0,17Y,18P
    0,0,17Y,18Q 0,0,185,18P 0,0,185,18Q 0,0,186,18P 0,0,186,18Q 0,0,184,17W 0,0,184,17X
    0,0,184,17Y 0,0,184,18L 0,0,184,181 0,0,183,181 0,0,185,181 0,0,186,181 0,0,187,18P
    0,0,187,18Q 0,0,189,18P 0,0,189,18Q 0,0,18A,18P 0,0,18A,18Q 0,0,183,18P 0,0,183,18Q
    0,0,184,18P 0,0,184,18Q 0,0,17X,18P 0,0,17X,18Q 0,0,17W,18P 0,0,17W,18Q 0,0,17Y,18P
    0,0,17Y,18Q 0,0,185,18P 0,0,185,18Q 0,0,186,18P 0,0,186,18Q 0,0,184,17W 0,0,184,17X
    0,0,184,17Y 0,0,184,18L 0,0,184,181 0,0,183,181 0,0,185,181 0,0,186,181 0,0,184,17W
    0,0,184,17X 0,0,184,17Y 0,0,184,18L 0,0,183,18N 0,0,184,18N 0,0,187,18L 0,0,183,17W
    0,0,183,17X 0,0,183,17Y 0,0,184,17W 0,0,184,17X 0,0,184,17Y 0,0,187,18L 0,0,188,18L
    0,0,17R,18R 0,0,17R,18R I,0,17U,17W,18L 0,0,17U,17X,17W 0,0,17U,17X,17W 0,0,17U,17X,18L
    0,0,17U,17Y,18L 0,0,17U,18L,17W 0,0,17U,18L,17X 0,0,17U,18L,17Y 0,0,17W,18L,17X
    0,0,17W,18L,17X 0,0,17X,18L,18Q 0,0,17X,18L,18P 0,0,183,17X,17W 0,0,183,17W,17X
    0,0,183,17W,18P 0,0,183,18L,17X 0,0,183,18L,17X 0,0,183,18L,17W 0,0,183,18L,18L
    0,0,183,18L,18L 0,0,185,17X,17X 0,0,185,17X,17X 0,0,185,18L,18L 0,0,184,17X,18L
    0,0,184,17X,18L 0,0,184,17W,18Q 0,0,184,18L,17Y 0,0,184,18L,17Y 0,0,184,18L,18L
    0,0,184,18L,18L 0,0,186,17X,18P 0,0,186,17Y,18L 0,0,186,17Y,18L 0,0,187,18L,17X
    0,0,187,18L,17X 0,0,187,18L,18L 0,0,187,18L,18Q 0,0,189,17W,18L 0,0,189,18L,18L
    0,0,189,18L,18L 0,0,189,18L,18P 0,0,18A,18L,18L 0,0,18A,18L,18Q 0,0,18A,18L,18P
    0,0,18H,17Y,18L 0,0,18H,17Y,18L 0,0,18I,18L,17X 0,0,18I,18L,18L 0,0,18K,17X,18L
    0,0,18K,17X,18Q 0,0,18K,17X,18P 0,0,18K,17W,17W 0,0,18K,17W,17W 0,0,18K,17Y,18L
    0,0,18K,17Y,18L 0,0,18K,18L,17X 0,0,18K,18L,17X 0,0,18L,17X,17W 0,0,18L,17X,18L
    0,0,18L,17X,18Q 0,0,18L,17W,17X 0,0,18L,17W,18L 0,0,18L,17Y,17W 0,0,18L,17Y,18L
    2,0,18L,17W,17Y 0,0,18N,18L,17W 0,0,18N,18L,18L 0,0,18M,17X,18L 0,0,18M,17X,18P
    0,0,18M,17W,18L 0,0,18M,17W,18L 0,0,18M,17W,18P 0,0,18M,18L,18Q 0,0,18M,18L,18P
    0,0,18Q,18L,18L 0,0,18Q,18L,18L 0,0,17S,17Y,18Q 0,0,17U,17W,18Q 0,0,17U,17W,18P
    0,0,17U,17Y,18Q 0,0,17U,17Y,18P 0,0,17U,18L,18Q 0,0,17U,18L,18P 0,0,17W,18L,18Q
    0,0,17W,17X,18P 0,0,17W,18L,18P 0,0,183,17Y,18P 0,0,185,17X,18Q 0,0,184,17X,18Q
    0,0,186,17X,18Q 0,0,18K,17W,18Q 0,0,18K,18L,18Q 0,0,18Q,17X,18Q 0,0,18Q,17W,18Q
    0,0,18Q,18L,18Q 0,0,18L,18L,18Q 0,0,18I,18L,18Q 0,0,18M,17X,18Q 0,0,18I,18L,17X
    0,0,18K,17X,18L 0,0,189,18L,18Q 0,0,18J,18L,18Q 0,0,18M,17W,17X 0,0,18L,17Y,18Q
    0,0,18K,17W,18L 0,0,18J,18L,18L 0,0,18K,17W,18L 0,0,18M,17W,17X 0,0,17W,17X,18Q
    0,0,17X,17W,18Q 0,0,18L,17W,18Q 0,0,18H,18L,18Q 0,0,17S,17X,18Q 0,0,18J,18L,18L
    0,0,189,17W,18L 0,0,185,18L,18L 0,0,183,17Y,18Q 0,0,18M,17W,18Q 14,0,185,18K,1CI
    0,0,18I,18K,1CI 0,0,17R,18K,18K,18N 0,0,17R,18J,17S,181 0,0,18L,17X,18L,17Z
    0,0,185,18K,189,18L 0,0,181,183,18O,18K 0,0,189,18K,18Q,18N 0,0,18O,183,18K,18L
    0,0,185,18K,18P 0,0,185,18K,18P,W,17R,18K,18K,18N,W,189,18K,18Q,18N,W,18O,183,18K,18L
    0,0,17W,18K,W,17W,18K,17R,18K,18N 0,0,181,1CC,17R,18K J,0,18 0,0,9HD 1,1,1,1M 0,0,X 0,0,1R
    0,1,1,9HY O,0,6C4 0,0,6C3 0,0,2N 0,0,2N 0,1,1,14 0,0,3F 0,0,3H 0,1,1,9HW 0,1,1,9HS 0,1,1,9HM
    0,1,1,9HK 0,3,1,9HO 2,0,2J 0,0,2L 0,0,W,LH 0,0,W,LH 0,0,W,LH 0,0,W,LH 0,0,2N 0,0,2N 0,0,2N
    0,0,18 0,0,9HD 2,0,1N 0,0,1M 0,0,1R 0,0,X 0,0,6C4 0,1,1,14 0,0,3F 0,0,3H 0,1,1,9HW 0,0,Z
    0,0,12 0,1,1,16 0,0,19 0,0,1O 0,0,1Q 0,0,1P 1,0,2K 0,1,1,10 0,0,1S 4,0,W,18R 0,0,18G,18R
    0,0,W,18S 1,0,W,18T 1,0,W,18U 0,0,18G,18U 0,0,W,18V 0,0,18G,18V 0,0,W,18W 0,0,18G,18W
    0,0,W,18X 0,0,18G,18X 0,0,W,18Y 0,0,18G,18Y 0,1,1,17L 0,1,1,17M 0,1,1,17N 0,1,1,17O
    0,1,1,17P 0,0,17Q 0,0,17Q 0,1,1,17Q 0,1,1,17R 0,0,17S 0,0,17S 0,1,1,17S 0,1,1,17T 0,0,17U
    0,0,17U 0,1,1,17U 0,0,17V 0,0,17V 0,1,1,17V 0,0,17W 0,0,17W 0,1,1,17W 0,0,17X 0,0,17X
    0,1,1,17X 0,0,17Y 0,0,17Y 0,1,1,17Y 0,1,1,17Z 0,1,1,180 0,1,1,181 0,1,1,182 0,0,183 0,0,183
    0,1,1,183 0,0,184 0,0,184 0,1,1,184 0,0,185 0,0,185 0,1,1,185 0,0,186 0,0,186 0,1,1,186
    0,0,187 0,0,187 0,1,1,187 0,0,188 0,0,188 0,1,1,188 0,0,189 0,0,189 0,1,1,189 0,0,18A
    0,0,18A 0,0,18A 0,0,18H 0,0,18H 0,0,18H 0,1,1,18H 0,0,18I 0,0,18I 0,1,1,18I 0,0,18J 0,0,18J
    0,1,1,18J 0,0,18K 0,0,18K 0,1,1,18K 0,0,18L 0,0,18L 0,1,1,18L 0,0,18M 0,0,18M 0,1,1,18M
    0,0,18N 0,0,18N 0,1,1,18N 0,1,1,18O 0,1,1,18P 0,0,18Q 0,0,18Q 0,0,18Q 0,0,18K,17M
    0,0,18K,17M 0,0,18K,17N 0,0,18K,17N 0,0,18K,17P 0,0,18K,17P 0,0,18K,17R 0,0,18K,17R 4,V,1,X
    0,P,1,2P 0,Z,1,2J 0,1,1,879 0,0,1A 0,1,1,9HO 0,0,9HD 0,0,9OB 0,0,9O2 0,0,9LT 0,0,9LV 0,0,9LX
    0,0,9LZ 0,0,9M1 0,0,9NN 0,0,9NP 0,0,9NR 0,0,9MR 0,0,9OC 0,0,9LU 0,0,9LW 0,0,9LY 0,0,9M0
    0,1,1,9M2 0,0,9M5 0,0,9M7 0,0,9M9 0,0,9MB 0,0,9MD 0,0,9MF 0,0,9MH 0,0,9MJ 0,0,9ML 0,0,9MN
    0,0,9MP 0,0,9MS 0,0,9MU 0,0,9MW 0,5,1,9MY 0,0,9N6 0,0,9N9 0,0,9NC 0,0,9NF 0,4,1,9NI 0,0,9NO
    0,0,9NQ 0,5,1,9NS 0,0,9NZ 0,0,9O3 0,1,1,9LL 1,1,1,3CW 0,0,3HM 0,0,3CY 0,1,1,3HO 0,2,1,3CZ
    0,5,1,3HS 0,0,3DM 0,2,1,3D2 0,0,3DT 0,9,1,3D5 3,5,1,3FL 2,5,1,3FR 2,5,1,3FX 2,2,1,3G3
    3,1,1,4I 0,0,4S 0,0,W,LG 0,0,4M 0,0,4L 0,0,6G9 1,0,7B6 0,3,1,6MO 0,0,7FK 0,0,7GR
    SX,13,1,1FE0 3S,Z,1,1FIW 4C,A,1,1FO7 1,E,1,1FOJ 1,6,1,1FOZ 1,1,1,1FP7 DN,1,1,K0 0,0,6E
    0,0,IH 0,0,GJ 1,0,IR 0,0,XUU 0,0,IT 0,0,IS 0,1,1,GM 0,0,5U9 0,0,GO 0,0,GU 0,0,IX 0,0,H0
    0,0,GY 0,0,GW 0,0,IJ 0,0,87 0,0,IK 0,0,H3 0,0,HW 0,1,1,IY 0,0,H8 0,0,2MMC 0,0,X3I 0,0,HA
    0,0,2MMD 0,0,I6 0,0,2MME 0,0,6W 0,1,1,HI 0,0,35 0,0,HM 0,0,2MMG 0,1,1,HP 0,0,HS 0,0,IW
    0,0,IU 0,0,XUV 0,0,IV 0,0,I0 0,0,8S1 1,0,I7 0,1,1,IP 0,0,IG 0,2,1,CG 0,0,2MMI 0,0,2MN2
    XX,1E,1,1H34 4D,L,1,1H80 27U,V,1,1JGG GW0,V,1,20DC 1S,O,1,20FV IL9,P,1,2P 0,9,1,1C
    V8,0,2JX3,2JXH 0,0,2JX4,2JXH 0,0,2JX4,2JXH,2JXQ 0,0,2JX4,2JXH,2JXR 0,0,2JX4,2JXH,2JXS
    0,0,2JX4,2JXH,2JXT 0,0,2JX4,2JXH,2JXU 2E,0,2JZT,2JXH 0,0,2JZU,2JXH 0,0,2JZT,2JXH,2JXQ
    0,0,2JZU,2JXH,2JXQ 0,0,2JZT,2JXH,2JXR 0,0,2JZU,2JXH,2JXR FZ,P,1,2P 0,P,1,2P 0,P,1,2P
    0,6,1,2P 1,H,1,2X 0,P,1,2P 0,P,1,2P 0,2,2,2P 0,0,2S 2,0,2V 2,1,1,2Y 2,3,1,32 1,7,1,37
    0,3,1,2P 1,2,2,2U 0,5,1,2X 1,A,1,34 0,P,1,2P 0,P,1,2P 0,1,1,2P 1,3,1,2S 2,7,1,2Y 1,6,1,37
    1,P,1,2P 0,1,1,2P 1,3,1,2S 1,4,1,2X 1,0,33 3,6,1,37 1,P,1,2P 0,P,1,2P 0,P,1,2P 0,P,1,2P
    0,P,1,2P 0,P,1,2P 0,P,1,2P 0,P,1,2P 0,P,1,2P 0,P,1,2P 0,P,1,2P 0,P,1,2P 0,P,1,2P 0,0,8H
    0,0,FR 2,G,1,Q9 0,0,QG 0,6,1,QR 0,0,6PZ 0,G,1,Q9 0,0,QR 0,6,1,QR 0,0,6PU 0,0,QD 0,0,QG
    0,0,QI 0,0,QU 0,0,QP 0,0,QO 0,G,1,Q9 0,0,QG 0,6,1,QR 0,0,6PZ 0,G,1,Q9 0,0,QR 0,6,1,QR
    0,0,6PU 0,0,QD 0,0,QG 0,0,QI 0,0,QU 0,0,QP 0,0,QO 0,G,1,Q9 0,0,QG 0,6,1,QR 0,0,6PZ 0,G,1,Q9
    0,0,QR 0,6,1,QR 0,0,6PU 0,0,QD 0,0,QG 0,0,QI 0,0,QU 0,0,QP 0,0,QO 0,G,1,Q9 0,0,QG 0,6,1,QR
    0,0,6PZ 0,G,1,Q9 0,0,QR 0,6,1,QR 0,0,6PU 0,0,QD 0,0,QG 0,0,QI 0,0,QU 0,0,QP 0,0,QO 0,G,1,Q9
    0,0,QG 0,6,1,QR 0,0,6PZ 0,G,1,Q9 0,0,QR 0,6,1,QR 0,0,6PU 0,0,QD 0,0,QG 0,0,QI 0,0,QU 0,0,QP
    0,0,QO 0,0,RH 0,0,RH 2,9,1,1C 0,9,1,1C 0,9,1,1C 0,9,1,1C 0,9,1,1C 1M8,8,1,TS 0,2,1,U2
    0,A,1,U6 0,0,UJ 0,1,1,UL 0,0,WW9 0,0,YH 0,0,UU 0,0,UW 0,0,YX 0,0,XB 0,0,Y7 0,8,1,TS 0,1,1,U2
    0,1,1,U6 0,0,U9 0,5,1,UB 0,1,1,UI 0,0,WH 0,0,UU 0,0,UT 0,0,V3 0,0,X7 0,0,WUP 0,0,XD
    1OY,X,1,2OMA YM,1,1,17R 0,0,17W 0,0,17Z 1,0,18O 0,0,182 0,0,17X 0,0,187 0,0,18Q 0,3,1,18J
    0,0,183 0,0,189 0,0,18H 0,0,185 0,0,18I 0,0,181 0,0,184 0,1,1,17U 0,0,17Y 0,0,180 0,0,186
    0,0,188 0,0,18A 0,0,19Q 0,0,1BU 0,0,1B5 0,0,19R 1,0,17S 0,0,17W 1,0,18N 2,0,17X 1,0,18Q
    0,3,1,18J 0,0,183 0,0,189 0,0,18H 0,0,185 0,0,18I 1,0,184 0,1,1,17U 0,0,17Y 1,0,186 1,0,18A
    6,0,17W 4,0,17X 1,0,18Q 1,2,2,18K 0,0,183 0,0,189 1,0,185 0,0,18I 1,0,184 2,0,17Y 1,0,186
    1,0,18A 1,0,1BU 1,0,19R 1,0,17S 0,0,17W 1,0,18N 2,0,17X 0,0,187 0,0,18Q 0,2,2,18J 0,0,18M
    0,0,183 0,0,189 0,0,18H 0,0,185 0,0,18I 1,0,184 0,1,1,17U 0,0,17Y 1,0,186 0,0,188 0,0,18A
    0,0,19Q 1,0,1B5 1,1,1,17R 0,0,17W 0,0,17Z 0,1,1,18N 0,0,182 0,0,17X 0,0,187 0,0,18Q
    1,2,1,18K 0,0,183 0,0,189 0,0,18H 0,0,185 0,0,18I 0,0,181 0,0,184 0,1,1,17U 0,0,17Y 0,0,180
    0,0,186 0,0,188 0,0,18A 5,0,17S 0,0,17W 0,0,17Z 1,0,18O 0,0,182 0,0,17X 0,0,187 0,0,18Q
    1,2,1,18K 0,0,183 0,0,189 0,0,18H 0,0,185 0,0,18I 0,0,181 0,0,184 0,1,1,17U 0,0,17Y 0,0,180
    0,0,186 0,0,188 0,0,18A G5,0,1C,18 0,0,1D,18 0,0,1E,18 0,0,1F,18 0,0,1G,18 0,0,1H,18
    0,0,1I,18 0,0,1J,18 0,0,1K,18 0,0,1L,18 5,0,14,2P,15 0,0,14,2Q,15 0,0,14,2R,15 0,0,14,2S,15
    0,0,14,2T,15 0,0,14,2U,15 0,0,14,2V,15 0,0,14,2W,15 0,0,14,2X,15 0,0,14,2Y,15 0,0,14,2Z,15
    0,0,14,30,15 0,0,14,31,15 0,0,14,32,15 0,0,14,33,15 0,0,14,34,15 0,0,14,35,15 0,0,14,36,15
    0,0,14,37,15 0,0,14,38,15 0,0,14,39,15 0,0,14,3A,15 0,0,14,3B,15 0,0,14,3C,15 0,0,14,3D,15
    0,0,14,3E,15 0,0,9HW,37,9HX 0,0,2R 0,0,36 0,0,2R,2S 0,0,3B,3E 1,P,1,2P 0,0,2W,3A 0,0,31,3A
    0,0,37,2S 0,0,37,37 0,0,34,34,3A 0,0,3B,2R Q,0,31,2R 0,0,31,2S 0,0,31,36 Z,0,2S,2Y
    33,0,9KR,9JF 0,0,9MB,9MB 0,0,9MD D,0,JEZ 0,0,I1J 0,0,GJW 0,0,9MV 0,0,FIK 0,0,HLM 0,0,R8J
    0,0,HM1 0,0,FJ8 0,0,K68 0,0,MCH 0,0,K2H 0,0,G99 0,0,IVG 0,0,G3X 0,0,K34 0,0,G7X 0,0,OQQ
    0,0,N4V 0,0,RS9 0,0,HKG 0,0,GMX 0,0,LXW 0,0,JH1 0,0,JMD 0,0,FEO 0,0,FEX 0,0,SI2 0,0,IJQ
    0,0,FFX 0,0,GKZ 0,0,JK7 0,0,RXS 0,0,JF7 0,0,O01 0,0,O6Y 0,0,GLK 0,0,LTS 0,0,KCP 0,0,KCO
    0,0,N5F 0,0,GAA 0,0,GXI 0,0,SP9 4,0,9HW,KDO,9HX 0,0,9HW,FEX,9HX 0,0,9HW,FIK,9HX
    0,0,9HW,I2X,9HX 0,0,9HW,M9L,9HX 0,0,9HW,JF7,9HX 0,0,9HW,NH3,9HX 0,0,9HW,GD9,9HX
    0,0,9HW,K0N,9HX 7,0,IVR 0,0,GKV 1WE,9,1,1C 1DS6,0,FGD 0,0,FG8 0,0,FGH 0,0,2TCY 0,0,FOG
    0,0,FQM 0,0,FQZ 0,0,FSY 0,0,FWA 0,0,FX5 0,0,FZB 0,0,FYN 0,0,AE6 0,0,2UD6 0,0,G25 0,0,G2C
    0,0,G2S 0,0,G3B 0,0,2U58 0,0,AEX 0,0,G2V 0,0,G3X 0,0,2U6J 0,0,G47 0,0,G4K 0,0,FKC 0,0,G4S
    0,0,G51 0,0,3LY7 0,0,G6T 0,0,G77 0,0,AFZ 0,0,G8R 0,0,G92 0,0,GAA 0,0,GAF 0,0,AHH 0,0,GCN
    0,0,GCP 0,0,GDG 0,0,GE2 0,1,1,GED 0,0,GEV 0,0,GG9 0,0,GGH 0,0,GGQ 0,0,GHF 0,0,GHP 0,0,GHR
    0,0,GHR 0,0,GHR 0,0,2V58 0,0,M7K 0,0,GJU 0,0,GKF 0,0,2VDV 0,0,GKR 0,0,GKX 0,0,GLI 0,0,GPQ
    0,0,GMW 0,0,GNC 0,0,GO8 0,0,GPU 0,0,GS6 0,0,GSW 0,0,GUR 0,0,GV7 0,0,GW4 0,0,GW4 0,0,GWP
    0,0,GX7 0,0,GXF 0,0,GXU 0,0,H7A 0,0,GZQ 0,0,H7B 0,0,H1T 0,0,H2S 0,0,G7B 0,0,HKE 0,0,HCE
    0,0,HDG 0,0,HE5 0,0,HAJ 0,0,HF6 0,0,HF5 0,0,HIK 0,0,2X9G 0,0,HKI 0,0,HKN 0,0,HL2 0,0,HLM
    0,0,HLU 0,0,HNM 0,0,2XM0 0,0,2XNU 0,0,HRG 0,0,HSR 0,0,HT3 0,0,HQW 0,0,HUU 0,0,AUM 0,0,AV0
    0,0,HZC 0,0,I0U 0,0,I0U 0,0,2Y88 0,0,I4J 0,0,I54 0,0,I5J 0,0,I5V 0,0,2YHK 0,0,I67 0,0,I6E
    0,0,ITV 0,0,I76 0,0,AYP 0,0,I8W 0,0,I9A 0,0,IBK 0,0,IA5 0,0,2Z1G 0,0,IF7 0,0,2Z1I 0,0,IGE
    0,0,IGB 0,0,IGS 0,1,1,IJL 0,0,B3J 0,0,IKD 0,0,ILK 0,0,IM5 0,0,IND 0,0,B4Y 0,0,2ZR7 0,0,B5O
    0,0,IPC 0,0,IPF 0,0,IPI 0,0,IQ2 0,0,3PG2 0,0,IRI 0,0,3035 0,0,3035 0,0,POH 0,0,ISI 0,0,ISI
    0,0,B7R 0,0,335K 0,0,3CGQ 0,0,IUA 0,0,IUJ 0,0,B8J 0,0,IVU 0,0,IX9 0,0,IXJ 0,0,IYH 0,0,J29
    0,0,BAY 0,0,BA4 0,0,J2S 0,0,30T0 0,0,J47 0,0,J7S 0,0,J7W 0,0,J7Y 0,0,J7W 0,0,J96 0,0,J9Q
    0,0,JAQ 0,0,JAC 0,0,JAN 0,0,JBY 0,0,JCI 0,0,JCM 0,0,JDC 0,0,JDN 0,0,JFH 0,0,JHT 0,0,JIS
    0,0,JM8 0,0,31N0 0,0,JLP 0,0,JJW 0,0,JMW 0,0,JNN 0,0,JQC 0,0,31TD 0,0,JS2 0,0,JPH 0,0,JOP
    0,0,BHQ 0,0,JU1 0,0,JUM 0,0,JVH 0,0,JUF 0,0,BJG 0,0,K0F 0,0,K18 0,0,32MI 0,0,K4J 0,0,KC8
    0,0,K7D 0,0,BO9 0,0,K9D 0,0,BNS 0,0,BMS 0,0,G42 0,0,G45 0,0,KCG 0,0,K9O 0,0,PF1 0,0,DEH
    0,0,KD3 0,0,KD7 0,0,KDD 0,0,KF2 0,0,KER 0,0,33CZ 0,0,BPL 0,0,KJE 0,0,KG5 0,0,KLU 0,0,KN9
    0,0,33HP 0,0,KNI 0,0,KKF 0,0,KR8 0,0,BRX 0,0,KSI 0,0,KV7 0,0,KX6 0,0,L2G 0,0,33XF 0,0,L3V
    0,0,BVC 0,0,L5T 0,0,34BR 0,0,L78 0,0,BWU 0,0,L82 0,0,L9B 0,1,1,LA2 0,0,34P9 0,0,2YVF
    0,0,34SA 0,0,LE6 0,0,354S 0,0,LHB 0,0,LHP 0,0,LEV 0,0,LJQ 0,0,LKU 0,0,LMF 0,0,LKX 0,0,LM1
    0,0,LMG 0,0,LMT 0,0,357I 0,0,LKK 0,0,LRJ 0,0,LTA 0,0,C37 0,0,LVV 0,0,LVR 0,0,35JL 0,0,LQ1
    0,0,M0E 0,0,35NI 0,0,35OU 0,0,M2U 0,0,M61 0,0,M5A 0,0,M57 0,0,C5Y 0,0,M6I 0,0,M7X 0,0,M7R
    0,0,M99 0,0,2U5H 0,0,MDH 0,0,368Z 0,0,MFW 0,0,36I3 0,0,MJS 0,0,MK5 0,0,MKW 0,0,36YW 0,0,MM8
    0,0,MMT 0,0,3779 0,0,37DG 0,0,MT6 0,0,MTN 0,0,CDO 0,0,MUD 0,0,CE0 0,0,CE0 0,0,MYV 0,0,MZG
    0,0,N01 0,0,N0L 0,0,N2I 0,0,CGR 0,0,N50 0,0,386U 0,0,N5Q 0,0,389E 0,0,N74 0,0,2ZRZ 0,0,NBK
    0,0,38V5 0,0,38VS 0,0,38ZO 0,0,CN0 0,0,CNC 0,0,NHW 0,0,394J 0,0,394I 0,0,395L 0,0,396B
    0,1,1,NJ2 0,0,NJ3 0,0,NKA 0,0,COP 0,0,NM3 0,0,CP2 0,0,CRA 0,0,39R1 0,0,NRI 0,0,NT8 0,0,NV0
    0,0,CTF 0,0,3A5I 0,0,NYU 0,0,3A8Q 0,0,3A9X 0,0,O0F 0,0,O2Z 0,0,CVJ 0,0,O5C 0,0,O5M 0,0,O5R
    0,0,3AT8 0,0,3B1J 0,0,3B1J 0,0,OA6 0,0,D1E 0,0,3B8R 0,0,OG6 0,0,OG9 0,0,D2F 0,0,3BEO 0,0,ONM
    0,0,D5S 0,0,OO8 0,0,OO3 0,0,OOW 0,0,3C06 0,0,ORN 0,0,D8H 0,0,OUF 0,0,OW2 0,0,OXX 0,0,D9W
    0,0,3CIW 0,0,3CJR 0,0,DAX 0,0,3CNT 0,0,P6I 0,0,3CQM 0,0,P79 0,0,PA2 0,0,PAD 0,0,3D22
    0,0,3D43 0,0,PCW 0,0,3D7S 0,0,PDC 0,0,33A7 0,0,DED 0,0,PF6 0,0,PHF 0,0,DFV 0,0,PJ2 0,0,HX1
    0,0,3DLZ 0,0,3DMD 0,0,33BN 0,0,33BW 0,0,POH 0,0,POK 0,0,SDA 0,0,DIJ 0,0,PSH 0,0,PSB 0,0,PST
    0,0,GC3 0,0,PTD 0,0,PTF 0,0,PTP 0,0,PUU 0,0,3EBG 0,0,PUT 0,0,PWD 0,0,PYB 0,0,Q0D 0,0,PWJ
    0,0,Q0T 0,0,Q1Z 0,0,Q53 0,0,PXV 0,0,Q16 0,0,Q18 0,0,Q1O 0,0,3EIE 0,0,3EQZ 0,0,3EMT 0,0,DNV
    0,0,Q9D 0,0,Q9F 0,0,QAE 0,0,3G0A 0,0,QCK 0,0,3F3G 0,0,DP9 0,0,DPD 0,0,3F75 0,0,3FF6 0,0,DPN
    0,0,QJ4 0,0,QJG 0,0,QJR 0,0,QJT 0,0,QLL 0,0,QKO 0,0,QOE 0,0,QN6 0,0,QRD 0,0,QP4 0,0,QQZ
    0,0,QRQ 0,0,DSN 0,0,QU9 0,0,QV5 0,0,DTL 0,0,QXS 0,0,QXV 0,0,3GIV 0,0,R13 0,0,R1A 0,0,DV9
    0,0,R22 0,0,AEZ 0,0,3GZ2 0,0,3H46 0,0,DZ2 0,0,DZB 0,0,RDS 0,0,RFX 0,0,RKA 0,0,RPX 0,0,3HRC
    0,0,RSB 0,0,RSX 0,0,RVF 0,0,RXZ 0,0,3I9B 0,0,2UPW 0,0,S0B 0,0,RZW 0,0,S1C 0,0,2UVY 0,0,S7O
    0,0,SAG 0,0,3JKI 0,0,3JL9 0,0,SK4 0,0,SMP 0,0,SNL 0,0,3JU6 0,0,SNV 0,0,SVS 0,1,1,T07 0,0,SXO
    0,0,T89 0,0,T91 0,0,3KSA 0,0,TJF 0,0,EJ9 0,0,TKN 0,0,3L2V 0,0,ELI 0,0,TS3 0,0,IIA 0,0,TUR
    0,0,3LTX 0,0,3LZU 0,0,EPA 0,0,EPI 0,0,U00 0,0,3MDM 0,0,ER6 0,0,3MHI 0,0,U17 0,0,U17 0,0,U21
    0,0,3MPI 0,0,U76 0,0,EUR 0,0,U95 0,0,UCN 0,0,UDE 0,0,UF2 0,0,EZ2 0,0,3NSG 0,0,UMQ 0,0,UV4
    0,0,V0D 0,0,F66 0,0,F71 0,0,V3B 0,0,3OWE 0,0,F7C 0,0,3OXX 0,0,3P5A 0,0,3P8X 0,0,VCR 0,0,F9Y
    0,0,VEH 0,0,VEM 0,0,VET 0,0,VF3 0,0,VFA 0,0,VGB 0,0,3PXC"

/-- The characters that are left out. -/
def ignoredRuns : List Run := Run.table
  "4T,0 IP,0 2RZ,1 18Z,1 2D,4 1KR,0 2C,4 5,5 3CK,0 14EZ,F 6N,0 4G,0 11BZ,3 43Z,7 H479,6N"

/-- The characters that no name holds, apart from those that are replaced or left out. -/
def refusedRuns : List Run := Run.table
  "3K,V K8,1 6,D K,0 B1,14 1E,1 3,0 1J,7 R,3 6,G M,0 5C,0 1C,1 1N,1 2T,D 1N,1 1D,1 F,0 S,1 1,0
    B,4 W,6 23,0 4H,0 8,1 2,1 M,0 7,0 1,2 4,1 9,1 2,1 4,7 1,6 5,1 P,1 3,0 6,3 2,1 M,0 7,0 2,0
    2,0 2,1 1,0 5,3 2,1 3,2 1,6 4,8 H,9 3,0 9,0 3,0 M,0 7,0 2,0 5,1 A,0 3,0 3,1 1,E 4,1 C,6 7,0
    3,0 8,1 2,1 M,0 7,0 2,0 5,1 9,1 2,1 3,6 3,6 5,1 I,9 2,0 6,2 3,0 4,2 2,0 1,0 2,2 2,2 3,2 C,3
    5,2 3,0 4,1 1,5 1,D L,4 D,0 3,0 N,0 G,1 9,0 3,0 4,6 2,0 3,0 2,1 4,1 A,6 M,0 3,0 N,0 A,0 5,1
    9,0 3,0 4,6 2,4 3,0 4,1 A,0 3,B D,0 3,0 1F,0 3,0 6,3 G,1 Q,0 3,0 I,2 O,0 9,0 1,1 7,2 1,3 6,0
    1,0 8,5 A,1 3,B 1M,3 T,10 2,0 1,0 5,0 O,0 1,0 N,1 5,0 1,0 7,0 A,1 4,V 20,0 10,3 13,0 10,0
    F,0 D,10 5I,9 AH,0 4,1 7,0 1,0 4,1 15,0 4,1 X,0 4,1 7,0 1,0 4,1 F,0 1L,0 4,1 1V,1 W,2 Q,5
    2E,9 HS,0 S,2 2H,6 M,8 O,8 K,B D,0 3,0 2,B 2M,1 A,5 A,5 Q,5 2H,6 17,4 1Y,9 V,0 C,3 C,3 1,2
    16,1 5,A 18,3 Q,5 B,2 1Q,1 1T,0 T,1 B,5 A,5 E,1 1A,1 C,J 25,0 4M,7 1O,2 F,2 1Q,1D B,7 17,4
    EU,9 12,9 8,6 V,1 1H,0 F,0 E,1 6,0 J,5 9,0 E,1 K,2 1,6 1I,1M Y,D X,E 3W,3 II,L B,28 1CO,1
    AM,4 19,0 1,4 1,1 1K,6 2,D O,8 7,0 7,0 7,0 7,0 7,0 7,0 7,0 7,0 3I,X Q,0 2H,7F 1S,0 2E,1 2V,4
    17,2N 2E,9 1B,0 BM,M M9G,2 1J,8 9O,J 54,7 65,J 1O,2 A,5 1K,7 1Y,7 C,5 38,A U,2 26,0 B,3 X,0
    1J,8 E,1 A,1 2V,N S,9 6,1 6,1 6,8 7,0 7,0 1O,3 3I,1 A,5 8MC,B N,3 1D,6IR A6,4U Q,E I2,V Y,D
    G,0 X,T 5,AY C,0 Q,0 J,0 2,0 F,1 E,X 3F,4 3,3 19,2 2G,0 D,2 1,1A 1A,3L T,2 1D,E S,3 10,8 U,4
    17,4 U,0 11,3 E,15 4E,1 A,19 10,3 14,7 1G,A C,R B,0 F,0 7,0 2,2 1G,B 8N,8 M,9 8,N 6,3D 6,1
    1,0 18,0 2,2 1,1 N,0 20,7 9,1B J,0 2,4 X,2 R,4 R,11 1K,3 K,1 1E,0 2,4 8,0 3,0 T,1 3,3 A,6
    9,6 1S,V 13,3 C,8 1I,2 T,1 R,4 Q,6 4,B 7,27 21,3A 1F,6 1A,7 A,5 12,2 T,7 2,5R V,0 16,0 3,1
    2,F 6,7 9,W 1A,7 16,L Q,11 S,J N,8 26,3 10,8 1Q,0 5,C P,6 A,5 1H,0 I,7 13,8 2O,0 K,A I,0
    1B,1P 7,0 1,0 4,0 F,0 B,5 1N,4 A,5 4,0 8,1 2,1 M,0 7,0 2,0 5,0 A,1 2,1 3,1 1,5 1,4 7,1 7,2
    5,A A,0 1,1 1,0 12,0 A,0 1,1 1,0 4,0 A,0 2,7 2,S 2K,0 5,T 20,7 A,4L 1I,1 12,X 1X,A A,5 D,I
    1M,5 A,5 K,R R,1 F,3 N,54 1O,2R 2B,B 8,1 1,1 8,0 2,0 U,0 2,1 C,8 A,1X 8,1 1A,1 B,Q 20,7 2B,C
    21,6 A,2D 8,2F Y,D A,5 9,0 19,0 E,9 T,2 W,1 M,0 E,20 7,0 2,0 18,2 1,0 2,0 9,7 A,5 6,0 2,0
    11,0 2,0 6,6 A,5 18,3 A,6T P,6 H,0 15,2 T,2C 1,E 1E,C PN,2T 33,0 5,A 5G,217 2R,C TS,F M,9
    32Z,4 G7,5A0 1M,1C5 FT,6 V,0 A,3 29,0 A,5 U,1 6,9 1Y,9 A,0 7,0 L,4 J,BZ 1M,5H 2J,V P,17 23,3
    1L,6 H,1R 5,A 7,8 5P2,14 W,2O 37,6PO 4,0 7,0 2,0 83,E 1,S 3,1 1,D 4,7 B0,1S3 2Z,4 D,2 9,6
    A,1 8,317 71,2 C4,5 N,E H,E 1A,1 N,8 38,1N 6U,9 13,1 5E,K 1Y,3D K,B K,B 2F,8 P,US JI,E 5,0
    F,UN V,5 6,5W 7,0 H,1 7,0 2,0 5,2R 1,33 19,2 E,1 A,3 2,8V V,G 1M,4 1,CV 16,5X 17,3 1,5B V,0
    M,7 2,67 7,0 4,0 2,0 F,0 5H,1 G,14 24,3 A,3 2,LS 1W,23 1P,C1 2,7H 18,3 2S,B F,1 F,0 F,0 11,A
    4T,1J T,2K 6,49 RD,2 H,2 D,2 62,5 C,3 1,E C,3 1K,7 A,5 14,7 U,1 C,3 2,D 9,12 9K,7 E,1 D,2
    B,2 1L,0 1,3 G,1 C,3 A,6 43,0 2V,SK WYO,V 3DQ,1 4GE,1 5RL,E HA,3HD 3T7,4 6JU,JDL1"

/-- The replacement of a character. -/
def replacement? (c : Char) : Option (List Char) := do
  let run ← find? replacementRuns c
  if run.first = run.last then some (run.values.map Char.ofNat)
  else
    match run.values with
    | [distance, image] =>
      let offset := c.toNat - run.first
      if offset % distance = 0 then some [Char.ofNat (image + offset)] else none
    | _ => none

/-- What becomes of a character. -/
def fate (c : Char) : Fate :=
  match replacement? c with
  | some characters => .replaced characters
  | none =>
    if (find? ignoredRuns c).isSome then .ignored
    else if (find? refusedRuns c).isSome then .refused
    else .kept

/-- Characters with each one met by its fate; none where one is refused. -/
def mapped? : List Char → Option (List Char)
  | [] => some []
  | c :: rest =>
    match fate c with
    | .kept => (mapped? rest).map (c :: ·)
    | .ignored => mapped? rest
    | .replaced characters => (mapped? rest).map (characters ++ ·)
    | .refused => none

end EntitlementRules.Unicode
